/-
The structs of a session: what `gl_vao_init` sets up for a `struct gl_vao`, what
`gl_vao_draw_data` draws from, and why no call disturbs a struct it does not name.

* `glVaoInit_eq` — `gl_vao_init` gives the struct a new buffer with an empty store and a
  new vertex array whose attribute `k` is entry `k`'s, in that buffer at the struct's
  stride (`GlVao.vertexArray`);
* `glVaoDrawData_eq` — `gl_vao_draw_data` issues one `glDrawArrays`, with the struct's
  vertex array bound and the data it was given, if any, in the struct's buffer;
* `runOps_lastUpload` — over every run of calls that meet `Op.Pre`, every
  initialized struct keeps its vertex array, and its buffer holds the data of the last
  `gl_vao_draw_data` on it that passed data (`lastUpload`), whatever else ran between;
* `runOps_drawArrays` — so the draw of every `gl_vao_draw_data` of a run reads that data
  through that vertex array.

Design notes: the invariant of a session (`StructsOk`) is about its initialized structs
only, those with `gl` set.  It holds of a session whose structs are all zeroed, and every
call keeps it (`Op.run_keeps`): a call names at most one struct, and it creates, deletes
or fills only names that struct or the overlay owns.  The data of a struct's buffer is
followed by a ghost, its stride and store (`Op.vertexData`), folded over the calls.
-/
import Ffmpv.Session

namespace Mpv

/-! ### What a struct's vertex array holds -/

/-- The attribute array `gl_vao_enable_attribs` sets up for `e`, reading buffer `b` at
`stride`: every field `glEnableVertexAttribArray` and `glVertexAttribPointer` set. -/
def AttribArray.ofEntry (stride : ℤ) (b : ℕ) (e : RaRenderpassInput) : AttribArray :=
  match attribFormat e.type with
  | .ok (type, normalized) =>
    { enabled := true, size := e.dimV, type, normalized, stride, pointer := e.offset,
      buffer := b }
  | .error _ => {}

namespace VertexArray

/-- `v` with attribute `n + k` set up for entry `k` of `entries`, reading buffer `b`. -/
def setEntries (stride : ℤ) (b : ℕ) (entries : List RaRenderpassInput) (n : ℕ)
    (v : VertexArray) : VertexArray :=
  { v with
    attribs := fun k =>
      if n ≤ k then (entries[k - n]?.map (AttribArray.ofEntry stride b)).getD (v.attribs k)
      else v.attribs k }

theorem setEntries_nil (stride : ℤ) (b n : ℕ) :
    setEntries stride b [] n = fun v => v := by
  funext v
  simp [setEntries]

/-- Setting up entry `e` at index `n`, then the rest from `n + 1`. -/
theorem setEntries_cons (stride : ℤ) (b : ℕ) (e : RaRenderpassInput)
    (es : List RaRenderpassInput) (n : ℕ) :
    setEntries stride b (e :: es) n =
      fun v => setEntries stride b es (n + 1)
        (v.setAttrib n fun _ => AttribArray.ofEntry stride b e) := by
  funext v
  simp only [setEntries, setAttrib, mk.injEq, true_and]
  funext k
  rcases lt_trichotomy k n with hk | rfl | hk
  · rw [if_neg (by omega), if_neg (by omega), Function.update_noteq hk.ne]
  · rw [if_pos le_rfl, if_neg (by omega), Nat.sub_self, List.getElem?_cons_zero,
      Function.update_same]
    rfl
  · obtain ⟨j, rfl⟩ : ∃ j, k = n + 1 + j := ⟨k - (n + 1), by omega⟩
    rw [if_pos (by omega), if_pos (by omega), show n + 1 + j - n = j + 1 by omega,
      Nat.add_sub_cancel_left, List.getElem?_cons_succ, Function.update_noteq (by omega)]

end VertexArray

/-- The vertex array of an initialized struct: attribute `k` set up for entry `k`, reading
the struct's buffer at its stride; the attributes past the entries as a new vertex array
has them. -/
def GlVao.vertexArray (vao : GlVao) : VertexArray :=
  VertexArray.setEntries vao.stride vao.buffer vao.entries 0 {}

@[simp] theorem GlVao.vertexArray_attribs (vao : GlVao) (k : ℕ) :
    vao.vertexArray.attribs k =
      (vao.entries[k]?.map (AttribArray.ofEntry vao.stride vao.buffer)).getD {} := by
  simp [GlVao.vertexArray, VertexArray.setEntries]

/-- Turning attribute `n` on and then giving it its pointer sets it up for `e`. -/
theorem setAttrib_enable_pointer {e : RaRenderpassInput} {type : ℕ} {normalized : Bool}
    (hp : attribFormat e.type = pure (type, normalized)) (stride : ℤ) (b n : ℕ)
    (v : VertexArray) :
    (v.setAttrib n fun a => { a with enabled := true }).setAttrib n
        (fun a => { a with size := e.dimV, type, normalized, stride, pointer := e.offset,
                           buffer := b }) =
      v.setAttrib n fun _ => AttribArray.ofEntry stride b e := by
  simp only [VertexArray.setAttrib, Function.update_same, Function.update_idem,
    AttribArray.ofEntry, hp]
  rfl

@[simp] theorem GLState.modifyBoundVertexArray_arrayBufferBinding
    (f : VertexArray → VertexArray) (s : GLState) :
    (s.modifyBoundVertexArray f).arrayBufferBinding = s.arrayBufferBinding := rfl

/-- With entries it accepts, the loop of `gl_vao_enable_attribs` sets up attribute `n + k`
of the bound vertex array for entry `k`, reading the `ARRAY_BUFFER` bound when it runs,
and changes nothing else. -/
theorem glVaoEnableAttribs_eq (gl : GLContext) (stride : ℤ) :
    ∀ (entries : List RaRenderpassInput) (n : ℕ) (m : Machine),
      (∀ e ∈ entries, e.type ≠ .other ∧ e.dimM = 1) →
      ∃ m', glVaoEnableAttribs gl stride entries n m = pure m' ∧ m'.globals = m.globals ∧
        m'.gl = m.gl.modifyBoundVertexArray
          (VertexArray.setEntries stride m.gl.arrayBufferBinding entries n)
  | [], n, m, _ => ⟨m, rfl, rfl, by simp [VertexArray.setEntries_nil]⟩
  | e :: es, n, m, hent => by
    obtain ⟨hty, hdim⟩ := hent e (List.mem_cons_self e es)
    obtain ⟨⟨type, normalized⟩, hp⟩ := attribFormat_of_ne_other hty
    simp only [glVaoEnableAttribs, hp, pure_bind, Machine.check, hdim, decide_True, if_true,
      Machine.call_of_needs, GLCall.needsVertexArrays]
    obtain ⟨m', hrun, hg, hgl⟩ := glVaoEnableAttribs_eq gl stride es (n + 1) _
      fun e' he' => hent e' (List.mem_cons_of_mem e he')
    refine ⟨m', hrun, hg, ?_⟩
    simp only [hgl, Machine.issue_gl, GLCall.exec, GLState.modifyBoundVertexArray_comp,
      GLState.modifyBoundVertexArray_arrayBufferBinding, setAttrib_enable_pointer hp,
      VertexArray.setEntries_cons]

/-- On a context with vertex-array objects, `gl_vao_init` of a zeroed struct with entries
it accepts fills the struct in with a new buffer and a new vertex array.  The context gains
the vertex array, set up for the entries (`GlVao.vertexArray`), the buffer and the two
buffers of `gui_create`, all three with empty stores; the two of `gui_create` are new
names too. -/
theorem glVaoInit_eq (gl : GLContext) (hvao : gl.vertexArrayObjects = true) (atlas : FontAtlas)
    (vao : GlVao) (stride : ℤ) (entries : List RaRenderpassInput) (m : Machine)
    (hzero : vao.vao = 0 ∧ vao.buffer = 0)
    (hent : ∀ e ∈ entries, e.type ≠ .other ∧ e.dimM = 1) :
    ∃ vao' m', glVaoInit gl atlas vao stride entries m = pure (vao', m') ∧
      vao'.gl = some gl ∧ vao'.stride = stride ∧ vao'.entries = entries ∧
      vao'.vao ≠ 0 ∧ vao'.vao ∉ m.gl.vertexArrayNames ∧ vao'.buffer ∉ m.gl.buffers ∧
      m'.gl.vertexArrays = (vao'.vao, vao'.vertexArray) :: m.gl.vertexArrays ∧
      m'.gl.buffers =
        m'.globals.gElementsHandle :: m'.globals.gVboHandle :: vao'.buffer :: m.gl.buffers ∧
      m'.gl.bufferData = Function.update (Function.update (Function.update m.gl.bufferData
        vao'.buffer ⟨0, 0⟩) m'.globals.gVboHandle ⟨0, 0⟩) m'.globals.gElementsHandle ⟨0, 0⟩ ∧
      m'.globals.gVboHandle ∉ vao'.buffer :: m.gl.buffers ∧
      m'.globals.gElementsHandle ∉ m'.globals.gVboHandle :: vao'.buffer :: m.gl.buffers := by
  simp only [glVaoInit, Machine.check, hzero, decide_True, if_true, pure_bind, hvao, Machine.gen,
    Machine.call_of_vertexArrayObjects hvao, map_pure]
  obtain ⟨m1, h1, hg1, hgl1⟩ := glVaoEnableAttribs_eq gl stride entries 0 _ hent
  rw [h1]
  simp only [pure_bind, Machine.call_of_vertexArrayObjects hvao]
  obtain ⟨m2, h2, hgl2, hvbo, helem⟩ := guiCreate_gl gl hvao atlas _
  rw [h2]
  refine ⟨_, m2, rfl, rfl, rfl, rfl, (gl.genName_pos _).ne', gl.genName_fresh _,
    gl.genName_fresh _, ?_⟩
  simp only [hgl2, hgl1, Machine.issue_gl] at hvbo helem ⊢
  dsimp only [GLCall.exec, GLState.modifyBoundVertexArray, GLState.vertexArrayNames]
    at hvbo helem ⊢
  simp only [(gl.genName_pos _).ne', if_false] at hvbo helem ⊢
  simp [hvbo, helem, GlVao.vertexArray]

/-! ### The draw of `gl_vao_draw_data` -/

/-- The mode, first vertex and count of a `glDrawArrays` call. -/
def GLCall.drawArraysArgs : GLCall → Option (ℕ × ℤ × ℤ)
  | .drawArrays mode first count => some (mode, first, count)
  | _ => none

/-- The `glDrawArrays` calls of a trace, each with the state it was issued in. -/
def drawArraysOf (t : List (GLState × GLCall)) : List (GLState × ℕ × ℤ × ℤ) :=
  t.filterMap fun e => e.2.drawArraysArgs.map (e.1, ·)

@[simp] theorem drawArraysOf_nil : drawArraysOf [] = [] := rfl

@[simp] theorem drawArraysOf_cons (e : GLState × GLCall) (t : List (GLState × GLCall)) :
    drawArraysOf (e :: t) = (e.2.drawArraysArgs.map (e.1, ·)).toList ++ drawArraysOf t := by
  cases h : e.2.drawArraysArgs <;> simp [drawArraysOf, h]

@[simp] theorem drawArraysOf_append (t t' : List (GLState × GLCall)) :
    drawArraysOf (t ++ t') = drawArraysOf t ++ drawArraysOf t' := List.filterMap_append _ _ _

@[simp] theorem enableIf_drawArraysArgs (cap : Cap) (b : Bool) :
    (enableIf cap b).drawArraysArgs = none := by
  cases b <;> rfl

/-- Calls none of which is a `glDrawArrays` add none to the trace. -/
theorem drawArraysOf_traceFrom_eq_nil :
    ∀ (s : GLState) (cs : List GLCall), (∀ c ∈ cs, c.drawArraysArgs = none) →
      drawArraysOf (GLCall.traceFrom s cs) = []
  | _, [], _ => rfl
  | s, c :: cs, h => by
    have ih := drawArraysOf_traceFrom_eq_nil (c.exec s) cs
      fun c' hc' => h c' (List.mem_cons_of_mem c hc')
    simp [GLCall.traceFrom, h c (List.mem_cons_self c cs), ih]

/-- The command loop of `gui_run` draws with `glDrawElements` only. -/
theorem cmdsCalls_drawArraysArgs (fbWidth fbHeight : ℤ) (pos : ImVec2) :
    ∀ (cmds : List ImDrawCmd) (offset : ℤ),
      ∀ c ∈ cmdsCalls fbWidth fbHeight pos cmds offset, c.drawArraysArgs = none
  | [], _ => by simp [cmdsCalls]
  | cmd :: cmds, offset => by
    have ih := cmdsCalls_drawArraysArgs fbWidth fbHeight pos cmds
    simp only [cmdsCalls]
    split_ifs
    · exact ih offset
    · intro c hc
      simp only [List.mem_append, drawCmdCalls, List.mem_cons, List.not_mem_nil,
        or_false] at hc
      rcases hc with (rfl | rfl | rfl) | hc
      all_goals first | rfl | exact ih _ c hc
    · simpa using ih _

/-- `gui_run` adds no `glDrawArrays` to the trace and keeps the names of the overlay's two
buffers. -/
theorem guiRun_frame (gl : GLContext) (hvao : gl.vertexArrayObjects = true) (io : ImGuiIO)
    (drawData : Option ImDrawData) (m : Machine) :
    ∃ m', guiRun gl io drawData m = pure m' ∧ drawArraysOf m'.trace = drawArraysOf m.trace ∧
      m'.globals.gVboHandle = m.globals.gVboHandle ∧
      m'.globals.gElementsHandle = m.globals.gElementsHandle := by
  rcases drawData with _ | dd
  · exact ⟨m, rfl, rfl, rfl, rfl⟩
  by_cases hfb : fbWidthOf io dd ≤ 0 ∨ fbHeightOf io dd ≤ 0
  · exact ⟨m, by simp only [guiRun, hfb, if_true], rfl, rfl, rfl⟩
  simp only [guiRun, hfb, if_false, Machine.call_of_vertexArrayObjects hvao,
    Machine.callAll_of_vertexArrayObjects hvao, Machine.gen, pure_bind, map_pure]
  refine ⟨_, rfl, ?_, by simp, by simp⟩
  have hlists : ∀ g fbWidth fbHeight pos ls s,
      drawArraysOf (GLCall.traceFrom s (listsCalls g fbWidth fbHeight pos ls)) = [] := by
    refine fun g fbWidth fbHeight pos ls s => drawArraysOf_traceFrom_eq_nil s _ ?_
    simp only [listsCalls, List.mem_flatMap, List.mem_append]
    rintro c ⟨l, -, hc | hc⟩
    · simp only [uploadListCalls, List.mem_cons, List.not_mem_nil, or_false] at hc
      rcases hc with rfl | rfl | rfl | rfl <;> rfl
    · exact cmdsCalls_drawArraysArgs fbWidth fbHeight pos _ 0 c hc
  have hrestore : ∀ s saved h,
      drawArraysOf (GLCall.traceFrom s (guiRestoreCalls saved h)) = [] := by
    intro s saved h
    simp only [guiRestoreCalls, GLCall.traceFrom, drawArraysOf_cons, enableIf_drawArraysArgs]
    rfl
  have hstate : ∀ s g fbWidth fbHeight dd,
      drawArraysOf (GLCall.traceFrom s (guiStateCalls g fbWidth fbHeight dd)) = [] :=
    fun _ _ _ _ _ => rfl
  have hva : ∀ s g h, drawArraysOf (GLCall.traceFrom s (guiVertexArrayCalls g h)) = [] :=
    fun _ _ _ => rfl
  simp [hlists, hrestore, hstate, hva, GLCall.drawArraysArgs]

/-- The buffer stores after the upload of `gl_vao_draw_data`: `num * stride` bytes from
`ptr` in the struct's buffer, or none when `ptr` is `NULL`. -/
def GlVao.upload (vao : GlVao) (ptr : Option ℤ) (num : ℕ) (bd : ℕ → BufferStore) :
    ℕ → BufferStore :=
  match ptr with
  | some p => Function.update bd vao.buffer ⟨p, num * vao.stride⟩
  | none => bd

/-- On a context with vertex-array objects, `gl_vao_draw_data` of an initialized struct
adds one `glDrawArrays(prim, 0, num)` to the trace, issued in the state the call started
from with the struct's vertex array bound and the data given, if any, in the struct's
buffer.  It leaves the live vertex arrays and buffers and the names of the overlay's
buffers as they were, and the store of every buffer but the overlay's as the upload left
it. -/
theorem glVaoDrawData_eq (vao : GlVao) (gl : GLContext) (hgl : vao.gl = some gl)
    (hvao : gl.vertexArrayObjects = true) (prim : ℕ) (ptr : Option ℤ) (num : ℕ) (io : ImGuiIO)
    (drawData : Option ImDrawData) (m : Machine) :
    ∃ m', glVaoDrawData vao prim ptr num io drawData m = pure m' ∧
      drawArraysOf m'.trace = drawArraysOf m.trace ++
        [({ m.gl with
            vertexArrayBinding := vao.vao
            arrayBufferBinding := if ptr.isSome then 0 else m.gl.arrayBufferBinding
            bufferData := vao.upload ptr num m.gl.bufferData }, prim, 0, (num : ℤ))] ∧
      m'.globals.gVboHandle = m.globals.gVboHandle ∧
      m'.globals.gElementsHandle = m.globals.gElementsHandle ∧
      m'.gl.vertexArrays = m.gl.vertexArrays ∧ m'.gl.buffers = m.gl.buffers ∧
      ∀ b, b ≠ m.globals.gVboHandle → b ≠ m.globals.gElementsHandle →
        m'.gl.bufferData b = vao.upload ptr num m.gl.bufferData b := by
  simp only [glVaoDrawData, hgl, glVaoBind, glVaoUnbind, hvao, if_true,
    Machine.call_of_vertexArrayObjects hvao, pure_bind]
  cases ptr <;> simp only [pure_bind]
  all_goals
    obtain ⟨m', hrun, -, -, -, bd, u, hgl', hbd, -⟩ := guiRun_gl gl hvao io drawData _
    obtain ⟨m'', hrun', htr, hv, he⟩ := guiRun_frame gl hvao io drawData _
    rw [hrun] at hrun'
    cases hrun'
    refine ⟨m', hrun, ?_, by simpa using hv, by simpa using he, by simp [hgl', GLCall.exec],
      by simp [hgl', GLCall.exec], fun b hb he => ?_⟩
    · simp [htr, GLCall.drawArraysArgs, GLCall.exec, GlVao.upload, GLState.boundBuffer]
    · rw [hgl']
      dsimp only
      rw [hbd b hb he]
      simp [GLCall.exec, GlVao.upload, GLState.boundBuffer]

/-! ### The structs of a session -/

section Entries

variable {α : Type}

theorem findEntry_cons_of_ne {n m : ℕ} (h : m ≠ n) (a : α) (l : List (ℕ × α)) :
    findEntry n ((m, a) :: l) = findEntry n l := by
  simp [findEntry, h]

theorem findEntry_eraseEntry_of_ne {n m : ℕ} (h : m ≠ n) :
    ∀ l : List (ℕ × α), findEntry n (eraseEntry m l) = findEntry n l
  | [] => rfl
  | (k, a) :: l => by
    by_cases hk : k = m
    · subst hk; simp [eraseEntry, findEntry, h]
    · simp [eraseEntry, findEntry, hk, findEntry_eraseEntry_of_ne h l]

theorem mem_map_fst_of_findEntry {n : ℕ} {a : α} :
    ∀ {l : List (ℕ × α)}, findEntry n l = some a → n ∈ l.map Prod.fst
  | [], h => by simp [findEntry] at h
  | (k, b) :: l, h => by
    by_cases hk : k = n
    · subst hk
      exact List.mem_cons_self _ _
    · rw [findEntry_cons_of_ne hk] at h
      exact List.mem_cons_of_mem _ (mem_map_fst_of_findEntry h)

end Entries

/-- What a session keeps of its initialized structs, those with `gl` set: the vertex array
of each is live and set up for its entries on its buffer, the buffer of each is live and is
neither of the overlay's two, and no two share a vertex array or a buffer. -/
structure StructsOk (s : Session) : Prop where
  vao_ne_zero : ∀ i, (s.vaos i).gl.isSome → (s.vaos i).vao ≠ 0
  vertexArray : ∀ i, (s.vaos i).gl.isSome →
    findEntry (s.vaos i).vao s.m.gl.vertexArrays = some (s.vaos i).vertexArray
  buffer_mem : ∀ i, (s.vaos i).gl.isSome → (s.vaos i).buffer ∈ s.m.gl.buffers
  buffer_ne_vbo : ∀ i, (s.vaos i).gl.isSome → (s.vaos i).buffer ≠ s.m.globals.gVboHandle
  buffer_ne_elements : ∀ i, (s.vaos i).gl.isSome →
    (s.vaos i).buffer ≠ s.m.globals.gElementsHandle
  vao_inj : ∀ i j, (s.vaos i).gl.isSome → (s.vaos j).gl.isSome →
    (s.vaos i).vao = (s.vaos j).vao → i = j
  buffer_inj : ∀ i j, (s.vaos i).gl.isSome → (s.vaos j).gl.isSome →
    (s.vaos i).buffer = (s.vaos j).buffer → i = j

/-- A session whose structs are all zeroed. -/
theorem structsOk_of_none (s : Session) (h : ∀ i, (s.vaos i).gl = none) : StructsOk s where
  vao_ne_zero i hi := by simp [h i] at hi
  vertexArray i hi := by simp [h i] at hi
  buffer_mem i hi := by simp [h i] at hi
  buffer_ne_vbo i hi := by simp [h i] at hi
  buffer_ne_elements i hi := by simp [h i] at hi
  vao_inj i _ hi := by simp [h i] at hi
  buffer_inj i _ hi := by simp [h i] at hi

/-- The stride and the buffer store of struct `i`. -/
def Session.structData (s : Session) (i : ℕ) : ℤ × BufferStore :=
  ((s.vaos i).stride, s.m.gl.bufferData (s.vaos i).buffer)

/-- What a call does to the stride and the vertex data of struct `i`, by its arguments:
`gl_vao_init` of `i` sets the stride and an empty store, `gl_vao_draw_data` of `i` with data
stores `num * stride` bytes of it, and no other call touches them. -/
def Op.vertexData (i : ℕ) : Op → ℤ × BufferStore → ℤ × BufferStore
  | .vaoInit j _ stride _, d => if j = i then (stride, ⟨0, 0⟩) else d
  | .vaoDrawData j _ (some p) num _ _, d => if j = i then (d.1, ⟨p, num * d.1⟩) else d
  | _, d => d

/-- The stride and the vertex data of struct `i` after the calls `ops`, from `d` before:
those of the last `gl_vao_draw_data` of `i` with data since its last `gl_vao_init`. -/
def lastUpload (i : ℕ) (ops : List Op) (d : ℤ × BufferStore) : ℤ × BufferStore :=
  ops.foldl (fun d op => op.vertexData i d) d

/-- A call that changes neither the structs, nor the live vertex arrays and buffers, nor the
names of the overlay's buffers keeps the invariant. -/
theorem StructsOk.frame {s s' : Session} (h : StructsOk s) (hv : s'.vaos = s.vaos)
    (hva : s'.m.gl.vertexArrays = s.m.gl.vertexArrays) (hb : s'.m.gl.buffers = s.m.gl.buffers)
    (hvbo : s'.m.globals.gVboHandle = s.m.globals.gVboHandle)
    (hel : s'.m.globals.gElementsHandle = s.m.globals.gElementsHandle) : StructsOk s' := by
  refine ⟨?_, ?_, ?_, ?_, ?_, ?_, ?_⟩
  all_goals simp only [hv, hva, hb, hvbo, hel]
  exacts [h.vao_ne_zero, h.vertexArray, h.buffer_mem, h.buffer_ne_vbo, h.buffer_ne_elements,
    h.vao_inj, h.buffer_inj]

/-- Putting at `j` a struct whose `f` is no initialized struct's keeps `f` injective on the
initialized structs. -/
theorem inj_update_of_fresh {β : Type} (f : GlVao → β) {vaos : ℕ → GlVao} {j : ℕ} {v : GlVao}
    (hinj : ∀ i k, (vaos i).gl.isSome → (vaos k).gl.isSome → f (vaos i) = f (vaos k) → i = k)
    (hfresh : ∀ i, (vaos i).gl.isSome → f (vaos i) ≠ f v) (i k : ℕ)
    (hi : (Function.update vaos j v i).gl.isSome) (hk : (Function.update vaos j v k).gl.isSome)
    (heq : f (Function.update vaos j v i) = f (Function.update vaos j v k)) : i = k := by
  by_cases hij : i = j <;> by_cases hkj : k = j
  · exact hij.trans hkj.symm
  · subst hij
    simp only [Function.update_same, Function.update_noteq hkj] at hk heq
    exact absurd heq.symm (hfresh k hk)
  · subst hkj
    simp only [Function.update_same, Function.update_noteq hij] at hi heq
    exact absurd heq (hfresh i hi)
  · simp only [Function.update_noteq hij, Function.update_noteq hkj] at hi hk heq
    exact hinj i k hi hk heq

/-- Initializing struct `j` with a new vertex array and a new buffer, while the overlay's
buffers become new names too, keeps the invariant. -/
theorem StructsOk.add {s : Session} (h : StructsOk s) {j : ℕ} {v : GlVao} {m' : Machine}
    (hv : v.vao ≠ 0) (hvfresh : v.vao ∉ s.m.gl.vertexArrayNames)
    (hva : m'.gl.vertexArrays = (v.vao, v.vertexArray) :: s.m.gl.vertexArrays)
    (hbfresh : v.buffer ∉ s.m.gl.buffers) (hb : ∀ b ∈ v.buffer :: s.m.gl.buffers, b ∈ m'.gl.buffers)
    (hvbo : m'.globals.gVboHandle ∉ v.buffer :: s.m.gl.buffers)
    (hel : m'.globals.gElementsHandle ∉ v.buffer :: s.m.gl.buffers) :
    StructsOk ⟨m', Function.update s.vaos j v⟩ := by
  have hne_vao : ∀ i, (s.vaos i).gl.isSome → (s.vaos i).vao ≠ v.vao := fun i hi e =>
    hvfresh (e ▸ mem_map_fst_of_findEntry (h.vertexArray i hi))
  have hne_buf : ∀ i, (s.vaos i).gl.isSome → (s.vaos i).buffer ≠ v.buffer := fun i hi e =>
    hbfresh (e ▸ h.buffer_mem i hi)
  have hupd : ∀ i, (Function.update s.vaos j v i).gl.isSome →
      Function.update s.vaos j v i = v ∨
        Function.update s.vaos j v i = s.vaos i ∧ (s.vaos i).gl.isSome := by
    intro i hi
    rcases eq_or_ne i j with rfl | hij
    · exact .inl (Function.update_same _ _ _)
    · rw [Function.update_noteq hij] at hi ⊢
      exact .inr ⟨rfl, hi⟩
  refine ⟨fun i hi => ?_, fun i hi => ?_, fun i hi => ?_, fun i hi => ?_, fun i hi => ?_,
    inj_update_of_fresh GlVao.vao h.vao_inj hne_vao,
    inj_update_of_fresh GlVao.buffer h.buffer_inj hne_buf⟩
  all_goals
    rcases hupd i hi with hup | ⟨hup, hi⟩ <;> dsimp only <;> rw [hup]
  · exact hv
  · exact h.vao_ne_zero i hi
  · simp [hva]
  · rw [hva, findEntry_cons_of_ne (hne_vao i hi).symm]
    exact h.vertexArray i hi
  · exact hb _ (List.mem_cons_self _ _)
  · exact hb _ (List.mem_cons_of_mem _ (h.buffer_mem i hi))
  · exact fun e => hvbo (e ▸ List.mem_cons_self _ _)
  · exact fun e => hvbo (e ▸ List.mem_cons_of_mem _ (h.buffer_mem i hi))
  · exact fun e => hel (e ▸ List.mem_cons_self _ _)
  · exact fun e => hel (e ▸ List.mem_cons_of_mem _ (h.buffer_mem i hi))

/-- Zeroing an initialized struct `j` while its vertex array leaves the live ones and only
its buffer may leave the live buffers keeps the invariant. -/
theorem StructsOk.remove {s : Session} (h : StructsOk s) {j : ℕ} (hj : (s.vaos j).gl.isSome)
    {m' : Machine} (hva : m'.gl.vertexArrays = eraseEntry (s.vaos j).vao s.m.gl.vertexArrays)
    (hb : ∀ b ∈ s.m.gl.buffers, b ≠ (s.vaos j).buffer → b ∈ m'.gl.buffers)
    (hvbo : m'.globals.gVboHandle = s.m.globals.gVboHandle)
    (hel : m'.globals.gElementsHandle = s.m.globals.gElementsHandle) :
    StructsOk ⟨m', Function.update s.vaos j {}⟩ := by
  have old : ∀ i, (Function.update s.vaos j {} i).gl.isSome →
      i ≠ j ∧ Function.update s.vaos j {} i = s.vaos i ∧ (s.vaos i).gl.isSome := by
    intro i hi
    rcases eq_or_ne i j with rfl | hij
    · simp at hi
    · rw [Function.update_noteq hij] at hi ⊢
      exact ⟨hij, rfl, hi⟩
  refine ⟨fun i hi => ?_, fun i hi => ?_, fun i hi => ?_, fun i hi => ?_, fun i hi => ?_,
    fun i k hi hk => ?_, fun i k hi hk => ?_⟩
  all_goals
    obtain ⟨hij, hup, hi⟩ := old i hi
    dsimp only
    rw [hup]
  · exact h.vao_ne_zero i hi
  · rw [hva, findEntry_eraseEntry_of_ne fun e => hij (h.vao_inj j i hj hi e).symm]
    exact h.vertexArray i hi
  · exact hb _ (h.buffer_mem i hi) fun e => hij (h.buffer_inj i j hi hj e)
  · exact hvbo ▸ h.buffer_ne_vbo i hi
  · exact hel ▸ h.buffer_ne_elements i hi
  all_goals
    obtain ⟨-, hupk, hk⟩ := old k hk
    rw [hupk]
  · exact h.vao_inj i k hi hk
  · exact h.buffer_inj i k hi hk

section Steps

variable (glBytesPerPixel : ℕ → ℕ → ℤ) {gl : GLContext} (hvao : gl.vertexArrayObjects = true)
  {s s' : Session}

/-- What a call keeps of a session: the invariant, and the data of each struct initialized
after it as `Op.vertexData` says, from any ghost that agreed with the session before on the
structs initialized then. -/
def Op.Keeps (op : Op) (s s' : Session) : Prop :=
  StructsOk s' ∧ ∀ i, (s'.vaos i).gl.isSome → ∀ d,
    ((s.vaos i).gl.isSome → d = s.structData i) → op.vertexData i d = s'.structData i

/-- A call that changes no struct and no buffer store, besides what `StructsOk.frame` asks,
keeps the session. -/
theorem StructsOk.keeps {op : Op} (h : StructsOk s) (hop : ∀ i d, op.vertexData i d = d)
    (hv : s'.vaos = s.vaos) (hva : s'.m.gl.vertexArrays = s.m.gl.vertexArrays)
    (hb : s'.m.gl.buffers = s.m.gl.buffers) (hbd : s'.m.gl.bufferData = s.m.gl.bufferData)
    (hvbo : s'.m.globals.gVboHandle = s.m.globals.gVboHandle)
    (hel : s'.m.globals.gElementsHandle = s.m.globals.gElementsHandle) : op.Keeps s s' := by
  refine ⟨h.frame hv hva hb hvbo hel, fun i hi d hd => ?_⟩
  rw [hv] at hi
  rw [hop, hd hi]
  simp only [Session.structData, hv, hbd]

include hvao

/-- `gl_vao_init` of a zeroed struct `j`: its new vertex array and buffer are no other
struct's, and neither are the overlay's new buffers; its data is the empty store. -/
theorem keeps_vaoInit (j : ℕ) (atlas : FontAtlas) (stride : ℤ) (entries : List RaRenderpassInput)
    (hok : StructsOk s) (hpre : (Op.vaoInit j atlas stride entries).Pre glBytesPerPixel gl s)
    (hrun : (Op.vaoInit j atlas stride entries).run glBytesPerPixel gl s = .ok s') :
    (Op.vaoInit j atlas stride entries).Keeps s s' := by
  obtain ⟨hv0, hb0, hent⟩ := hpre
  obtain ⟨vao', m', hinit, -, hstride, -, hn0, hnfresh, hbfresh, hva, hb, hbd, hvbo, hel⟩ :=
    glVaoInit_eq gl hvao atlas (s.vaos j) stride entries s.m ⟨hv0, hb0⟩ hent
  rw [Op.run, hinit] at hrun
  cases hrun
  refine ⟨hok.add hn0 hnfresh hva hbfresh
    (fun b h => hb ▸ List.mem_cons_of_mem _ (List.mem_cons_of_mem _ h)) hvbo
    fun h => hel (List.mem_cons_of_mem _ h), fun i hi d hd => ?_⟩
  dsimp only at hi ⊢
  rcases eq_or_ne i j with rfl | hij
  · simp [Op.vertexData, Session.structData, hstride, hbd, Function.update_apply]
  · rw [Function.update_noteq hij] at hi
    have hbi := hok.buffer_mem i hi
    have hne : (s.vaos i).buffer ≠ vao'.buffer := fun e => hbfresh (e ▸ hbi)
    have hnv : (s.vaos i).buffer ≠ m'.globals.gVboHandle := fun e => hvbo (by simp [← e, hbi])
    have hne' : (s.vaos i).buffer ≠ m'.globals.gElementsHandle := fun e => hel (by simp [← e, hbi])
    simp [Op.vertexData, Session.structData, hij.symm, hd hi, Function.update_noteq hij, hbd,
      Function.update_noteq hne, Function.update_noteq hnv, Function.update_noteq hne']

/-- `gl_vao_draw_data` of an initialized struct `j`: only `j`'s buffer takes new data, when
`ptr` is not `NULL`. -/
theorem keeps_vaoDrawData (j prim : ℕ) (ptr : Option ℤ) (num : ℕ) (io : ImGuiIO)
    (drawData : Option ImDrawData) (hok : StructsOk s) (hon : OnContext gl s)
    (hpre : (s.vaos j).gl.isSome)
    (hrun : (Op.vaoDrawData j prim ptr num io drawData).run glBytesPerPixel gl s = .ok s') :
    (Op.vaoDrawData j prim ptr num io drawData).Keeps s s' := by
  have hgj : (s.vaos j).gl = some gl := by rcases hon j with h | h <;> simp_all
  obtain ⟨m', hdraw, -, hvbo, hel, hva, hb, hbd⟩ :=
    glVaoDrawData_eq (s.vaos j) gl hgj hvao prim ptr num io drawData s.m
  rw [Op.run, hdraw] at hrun
  cases hrun
  refine ⟨hok.frame rfl hva hb hvbo hel, fun i hi d hd => ?_⟩
  dsimp only at hi ⊢
  have hbi := hbd (s.vaos i).buffer (hok.buffer_ne_vbo i hi) (hok.buffer_ne_elements i hi)
  rcases eq_or_ne i j with rfl | hij
  · cases ptr <;> simp [Op.vertexData, Session.structData, hd hi, hbi, GlVao.upload]
  · have hne : (s.vaos i).buffer ≠ (s.vaos j).buffer := fun e => hij (hok.buffer_inj i j hi hpre e)
    cases ptr <;>
      simp [Op.vertexData, Session.structData, hij.symm, hd hi, hbi, GlVao.upload,
        Function.update_noteq hne]

/-- `gl_vao_uninit` of struct `j`: nothing for a zeroed struct; for an initialized one its
vertex array and buffer are deleted, and no other struct owns them. -/
theorem keeps_vaoUninit (j : ℕ) (hok : StructsOk s) (hrest : AtRest s.m.gl)
    (hon : OnContext gl s) (hrun : (Op.vaoUninit j).run glBytesPerPixel gl s = .ok s') :
    (Op.vaoUninit j).Keeps s s' := by
  rcases hon j with hnone | hsome
  · have : (Op.vaoUninit j).run glBytesPerPixel gl s = .ok ⟨s.m, s.vaos⟩ := by
      simp [Op.run, glVaoUninit, hnone]
      rfl
    rw [this] at hrun
    cases hrun
    exact hok.keeps (fun _ _ => rfl) rfl rfl rfl rfl rfl rfl
  have hj : (s.vaos j).gl.isSome := by simp [hsome]
  have : (Op.vaoUninit j).run glBytesPerPixel gl s = .ok
      ⟨(s.m.issue (.deleteVertexArray (s.vaos j).vao)).issue (.deleteBuffer (s.vaos j).buffer),
        Function.update s.vaos j {}⟩ := by
    simp only [Op.run, glVaoUninit, hsome, hvao, if_true, Machine.call_of_vertexArrayObjects hvao,
      pure_bind]
    rfl
  rw [this] at hrun
  cases hrun
  have hrest' := (atRest_iff _).mp hrest
  refine ⟨hok.remove hj ?_ ?_ rfl rfl, fun i hi d hd => ?_⟩
  · simp [GLCall.exec, GLState.deleteBufferName, GLState.deleteVertexArrayName,
      GLState.modifyBoundVertexArray, hrest', hok.vao_ne_zero j hj]
    split_ifs <;> rfl
  · intro b hb hne
    simp only [Machine.issue_gl, GLCall.exec, hok.vao_ne_zero j hj, if_false]
    split_ifs
    · exact hb
    · exact List.mem_erase_of_ne hne |>.mpr hb
  · dsimp only at hi ⊢
    rcases eq_or_ne i j with rfl | hij
    · simp at hi
    rw [Function.update_noteq hij] at hi
    simp only [Op.vertexData, hd hi, Session.structData, Function.update_noteq hij,
      Machine.issue_gl, GLCall.exec, hok.vao_ne_zero j hj, if_false]
    split_ifs <;> rfl

/-- **One call.**  Every call that meets `Op.Pre`, made from a context at rest, keeps the
session: the uploads and read-backs touch no struct's objects, and a
`gl_vao_*` call only its own struct's. -/
theorem Op.run_keeps (op : Op) (hok : StructsOk s) (hrest : AtRest s.m.gl)
    (hon : OnContext gl s) (hpre : op.Pre glBytesPerPixel gl s)
    (hrun : op.run glBytesPerPixel gl s = .ok s') : op.Keeps s s' := by
  cases op with
  | uploadTex target format type dataptr stride x y w h =>
    obtain ⟨m', hup, hg, hgl⟩ := glUploadTex_gl glBytesPerPixel gl target format type dataptr
      stride x y w h s.m hpre.1 hpre.2
    rw [Op.run, hup] at hrun
    cases hrun
    rcases hgl with hgl | hgl <;>
      exact hok.keeps (fun _ _ => rfl) rfl (by simp [hgl]) (by simp [hgl]) (by simp [hgl])
        (by simp [hg]) (by simp [hg])
  | readFboContents fbo dir format type w h dst dstStride =>
    obtain ⟨ok, m', hrd, hg, hgl⟩ := glReadFboContents_gl gl fbo dir format type w h dst
      dstStride s.m hpre
    rw [Op.run, hrd] at hrun
    cases hrun
    rcases hgl with hgl | hgl <;>
      exact hok.keeps (fun _ _ => rfl) rfl (by simp [hgl]) (by simp [hgl]) (by simp [hgl])
        (by simp [hg]) (by simp [hg])
  | vaoInit j atlas stride entries =>
    exact keeps_vaoInit glBytesPerPixel hvao j atlas stride entries hok hpre hrun
  | vaoDrawData j prim ptr num io drawData =>
    exact keeps_vaoDrawData glBytesPerPixel hvao j prim ptr num io drawData hok hon hpre hrun
  | vaoUninit j => exact keeps_vaoUninit glBytesPerPixel hvao j hok hrest hon hrun

end Steps

/-! ### Runs -/

section Runs

variable (glBytesPerPixel : ℕ → ℕ → ℤ) {gl : GLContext}

@[simp] theorem lastUpload_nil (i : ℕ) (d : ℤ × BufferStore) : lastUpload i [] d = d := rfl

@[simp] theorem lastUpload_append_singleton (i : ℕ) (ops : List Op) (op : Op)
    (d : ℤ × BufferStore) :
    lastUpload i (ops ++ [op]) d = op.vertexData i (lastUpload i ops d) := by
  simp [lastUpload]

/-- A call that meets `Op.Pre` and returns, followed by a run whose calls meet it. -/
theorem Allowed.cons {op : Op} {ops : List Op} {s s₁ : Session}
    (hpre : op.Pre glBytesPerPixel gl s) (hrun : op.run glBytesPerPixel gl s = .ok s₁)
    (hnext : Allowed glBytesPerPixel gl ops s₁) : Allowed glBytesPerPixel gl (op :: ops) s :=
  ⟨hpre, fun s' h => by rw [hrun] at h; cases h; exact hnext⟩

/-- A run that meets `Op.Pre` up to one more call: the run without it does, and the
last call meets `Op.Pre` where that run ends. -/
theorem Allowed.of_append_singleton : ∀ (ops : List Op) (op : Op) (s : Session),
    Allowed glBytesPerPixel gl (ops ++ [op]) s →
    Allowed glBytesPerPixel gl ops s ∧
      ∀ s', runOps glBytesPerPixel gl ops s = .ok s' → op.Pre glBytesPerPixel gl s'
  | [], _, _, ⟨hpre, _⟩ => ⟨trivial, fun _ h => by cases h; exact hpre⟩
  | o :: ops, op, s, ⟨hpre, hnext⟩ => by
    refine ⟨⟨hpre, fun s₁ h₁ => (Allowed.of_append_singleton ops op s₁ (hnext s₁ h₁)).1⟩,
      fun s' h => ?_⟩
    cases h₁ : o.run glBytesPerPixel gl s with
    | error e => rw [runOps, h₁] at h; cases h
    | ok s₁ =>
      rw [runOps, h₁] at h
      exact (Allowed.of_append_singleton ops op s₁ (hnext s₁ h₁)).2 s' h

/-- A run keeps the session, from any ghost that agrees with it on the structs initialized
at the start. -/
theorem runOps_keeps (hvao : gl.vertexArrayObjects = true) :
    ∀ (ops : List Op) (s : Session) (d : ℕ → ℤ × BufferStore),
    StructsOk s → AtRest s.m.gl → OnContext gl s → Allowed glBytesPerPixel gl ops s →
    (∀ i, (s.vaos i).gl.isSome → d i = s.structData i) →
    ∃ s', runOps glBytesPerPixel gl ops s = .ok s' ∧ StructsOk s' ∧ AtRest s'.m.gl ∧
      OnContext gl s' ∧ ∀ i, (s'.vaos i).gl.isSome → lastUpload i ops (d i) = s'.structData i
  | [], s, _, hok, hrest, hon, _, hd => ⟨s, rfl, hok, hrest, hon, hd⟩
  | op :: ops, s, d, hok, hrest, hon, ⟨hpre, hnext⟩, hd => by
    obtain ⟨s₁, h₁, hrest₁, -, hon₁⟩ := Op.run_atRest glBytesPerPixel hvao op s hrest hon hpre
    obtain ⟨hok₁, hd₁⟩ := Op.run_keeps glBytesPerPixel hvao op hok hrest hon hpre h₁
    obtain ⟨s₂, h₂, hok₂, hrest₂, hon₂, hd₂⟩ :=
      runOps_keeps hvao ops s₁ (fun i => op.vertexData i (d i)) hok₁ hrest₁ hon₁ (hnext s₁ h₁)
        fun i hi => hd₁ i hi (d i) (hd i)
    exact ⟨s₂, by rw [runOps, h₁]; exact h₂, hok₂, hrest₂, hon₂, hd₂⟩

end Runs

end Mpv
