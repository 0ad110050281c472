/-
Texture upload: `get_alignment` and `gl_upload_tex`.

`gl_upload_tex` sets `UNPACK_ALIGNMENT` to `get_alignment(stride)` and either sets
`UNPACK_ROW_LENGTH` to `stride / bpp` (when the driver has row lengths) and uploads the
whole rectangle in one `glTexSubImage2D`, or, without row lengths, uploads in one call
when the rows are packed and row by row otherwise.  `unpackWrites` reads a call under
GL's unpack rule: the texels it writes, each with the client address it is read from.

* `uploadSlices_eq` — the slice loop, for every `slice ≥ 1` whose `int` expressions fit:
  one call per slice, at rows `y + k * slice`, reading from `data + k * (stride * slice)`;
* `glUploadTex_eq` — the whole upload past its early return, when none of its `int`
  expressions overflows (`UploadFits`): the pixel-store calls, the slices in the state
  they leave, and the calls that restore the pixel store;
* `glUploadTex_slices_partition` — the slices such an upload issues are all `slice`
  rows high, consecutive, and cover `[y, y + h)` exactly: `slice` is `h` or `1`, so the
  remainder call after the loop is never issued;
* `glUploadTex_overflows_below_int_max` — at `y = INT_MAX - 1` and `h = 1` the upload
  stops at the test that ends the loop;
* `rowPitch_eq_stride` — the row length `stride / bpp` under `get_alignment(stride)`
  gives back the pitch `stride` exactly when `stride % bpp < get_alignment(stride)`;
* `glUploadTex_writes` — every upload whose `int` expressions fit, with
  `stride % bpp < get_alignment(stride)` or without row lengths, writes each texel of the
  rectangle once, from `dataptr + j * stride + i * bpp`;
* `glUploadTex_misreads_odd_stride` — with row lengths, `bpp = 3` and `stride = 7`, the
  second row is read from `dataptr + 6`.

Design notes: every `int` expression of the function goes through `intExpr`, and one
whose value leaves the range of `int` stops the run with `.overflow`, signed overflow
being undefined.  `glUploadTexInts` lists those values in the order the code evaluates
them; pointer arithmetic on `data` is not an `int` expression.
-/
import Ffmpv.GL.Call
import Ffmpv.AvCommon.Options

namespace Mpv

/-! ### `int` expressions -/

/-- `v` is a value of `int`. -/
def InIntRange (v : ℤ) : Prop := INT_MIN ≤ v ∧ v ≤ INT_MAX

instance : DecidablePred InIntRange := fun _ => inferInstanceAs (Decidable (_ ∧ _))

/-- The value of an `int` expression, or `.overflow` when it leaves the range of `int`. -/
def intExpr (v : ℤ) : Except Fault ℤ := if InIntRange v then pure v else throw .overflow

theorem intExpr_of_inRange {v : ℤ} (h : InIntRange v) : intExpr v = pure v := if_pos h

theorem intExpr_of_not_inRange {v : ℤ} (h : ¬InIntRange v) : intExpr v = throw .overflow :=
  if_neg h

/-! ### The model -/

/-- `get_alignment`: the largest of 8, 4, 2, 1 that divides `stride`. -/
def getAlignment (stride : ℤ) : ℤ :=
  if stride.tmod 8 = 0 then 8
  else if stride.tmod 4 = 0 then 4
  else if stride.tmod 2 = 0 then 2
  else 1

theorem getAlignment_cases (stride : ℤ) :
    getAlignment stride = 8 ∧ stride % 8 = 0 ∨ getAlignment stride = 4 ∧ stride % 4 = 0 ∨
      getAlignment stride = 2 ∧ stride % 2 = 0 ∨ getAlignment stride = 1 := by
  simp only [getAlignment, ← Int.dvd_iff_tmod_eq_zero]
  split_ifs <;> omega

section Upload

/- `gl_bytes_per_pixel(format, type)` of `formats.c`, which is not part of this
development: `0` for a pair it does not know. -/
variable (glBytesPerPixel : ℕ → ℕ → ℤ)

/-- The slice loop of `gl_upload_tex`, `for (; y + slice <= y_max; y += slice)`, for at
most `fuel` iterations; it returns the final `y` and `data`. -/
def uploadSlices (gl : GLContext) (target format type : ℕ) (stride x w slice yMax : ℤ) :
    ℕ → ℤ → ℤ → Machine → Except Fault (ℤ × ℤ × Machine)
  | 0, _, _, _ => throw .fuel
  | fuel + 1, y, data, m => do
    if (← intExpr (y + slice)) ≤ yMax then
      let m ← m.call gl (.texSubImage2D target 0 x y w slice format type data)
      let step ← intExpr (stride * slice)
      uploadSlices gl target format type stride x w slice yMax fuel (← intExpr (y + slice))
        (data + step) m
    else pure (y, data, m)

/-- `gl_upload_tex`: upload the `w × h` pixels at `(x, y)` from `dataptr`, rows `stride`
bytes apart.  The loop gets `h + 1` iterations, enough for every `slice ≥ 1`. -/
def glUploadTex (gl : GLContext) (target format type : ℕ) (dataptr stride x y w h : ℤ)
    (m : Machine) : Except Fault Machine := do
  let bpp := glBytesPerPixel format type
  let yMax ← intExpr (y + h)
  if w ≤ 0 ∨ h ≤ 0 ∨ bpp = 0 then pure m else do
  let m ← m.check (0 < stride)
  let m ← m.call gl (.pixelStorei .unpackAlignment (getAlignment stride))
  let (slice, m) ← if gl.rowLength then do
      let m ← m.call gl (.pixelStorei .unpackRowLength (← intExpr (stride.tdiv bpp)))
      pure (h, m)
    else do
      let packed ← intExpr (bpp * w)
      pure (if stride ≠ packed then 1 else h, m)
  let (y, data, m) ←
    uploadSlices gl target format type stride x w slice yMax (h.toNat + 1) y dataptr m
  let m ← if y < yMax then
      m.call gl (.texSubImage2D target 0 x y w (← intExpr (yMax - y)) format type data)
    else pure m
  let m ← if gl.rowLength then m.call gl (.pixelStorei .unpackRowLength 0) else pure m
  m.call gl (.pixelStorei .unpackAlignment 4)

end Upload

/-! ### The `int` values of an upload -/

/-- The `int` values the slice loop evaluates in at most `fuel` tests, and the `y` it ends
with: `y + slice` for each test, and on each pass `stride * slice` for
`data += stride * slice` and `y + slice` for `y += slice`. -/
def uploadSlicesInts (stride slice yMax : ℤ) : ℕ → ℤ → List ℤ × ℤ
  | 0, y => ([], y)
  | fuel + 1, y =>
    if y + slice ≤ yMax then
      let r := uploadSlicesInts stride slice yMax fuel (y + slice)
      ((y + slice) :: (stride * slice) :: (y + slice) :: r.1, r.2)
    else ([y + slice], y)

section Upload

variable (glBytesPerPixel : ℕ → ℕ → ℤ)

/-- The `int` values `gl_upload_tex` evaluates, in order: `y_max = y + h`; past the early
return and the assertion `stride > 0`, `stride / bpp` with row lengths or `bpp * w`
without; the slice loop; and `y_max - y` when the remainder call is made. -/
def glUploadTexInts (gl : GLContext) (format type : ℕ) (stride y w h : ℤ) : List ℤ :=
  let bpp := glBytesPerPixel format type
  let yMax := y + h
  yMax :: if w ≤ 0 ∨ h ≤ 0 ∨ bpp = 0 ∨ ¬0 < stride then [] else
    let slice := if gl.rowLength then h else if stride ≠ bpp * w then 1 else h
    let (ints, y) := uploadSlicesInts stride slice yMax (h.toNat + 1) y
    ((if gl.rowLength then stride.tdiv bpp else bpp * w) :: ints) ++
      if y < yMax then [yMax - y] else []

/-- No `int` expression of `gl_upload_tex` overflows. -/
def UploadFits (gl : GLContext) (format type : ℕ) (stride y w h : ℤ) : Prop :=
  ∀ v ∈ glUploadTexInts glBytesPerPixel gl format type stride y w h, InIntRange v

instance (gl : GLContext) (format type : ℕ) (stride y w h : ℤ) :
    Decidable (UploadFits glBytesPerPixel gl format type stride y w h) :=
  inferInstanceAs (Decidable (∀ v ∈ _, _))

end Upload

/-! ### The slice loop -/

/-- The slice loop run for `n` slices, when the values its `int` expressions take fit: it
issues one `glTexSubImage2D` per slice, at row `y + k * slice` from
`data + k * (stride * slice)`, all in the state it started in. -/
theorem uploadSlices_eq (gl : GLContext) (target format type : ℕ) (stride x w slice yMax : ℤ)
    (hslice : 0 < slice) : ∀ (n fuel : ℕ) (y data : ℤ) (m : Machine), n < fuel →
      y + n * slice ≤ yMax → yMax < y + (n + 1) * slice →
      (∀ v ∈ (uploadSlicesInts stride slice yMax fuel y).1, InIntRange v) →
      uploadSlices gl target format type stride x w slice yMax fuel y data m =
        pure (y + n * slice, data + n * (stride * slice),
          { m with trace := m.trace ++ (List.range n).map fun k =>
            (m.gl, .texSubImage2D target 0 x (y + k * slice) w slice format type
              (data + k * (stride * slice))) }) := by
  intro n
  induction n with
  | zero =>
    intro fuel y data m hfuel _ hlt hints
    obtain ⟨fuel, rfl⟩ : ∃ f, fuel = f + 1 := ⟨fuel - 1, by omega⟩
    have hend : ¬y + slice ≤ yMax := by simp only [Nat.cast_zero, zero_add, one_mul] at hlt; omega
    simp only [uploadSlicesInts, hend, if_false, List.mem_singleton, forall_eq] at hints
    simp [uploadSlices, intExpr_of_inRange hints, hend]
  | succ n ih =>
    intro fuel y data m hfuel hle hlt hints
    obtain ⟨fuel, rfl⟩ : ∃ f, fuel = f + 1 := ⟨fuel - 1, by omega⟩
    have hn : 0 ≤ (n : ℤ) * slice := by positivity
    push_cast at hle hlt ⊢
    have hpass : y + slice ≤ yMax := by linarith
    simp only [uploadSlicesInts, hpass, if_true, List.forall_mem_cons] at hints
    obtain ⟨htest, hstep, -, hrest⟩ := hints
    rw [uploadSlices, intExpr_of_inRange htest, pure_bind, if_pos hpass,
      Machine.call_of_provides (GLContext.provides_of_needs (by rfl)), pure_bind,
      intExpr_of_inRange hstep, pure_bind, pure_bind,
      ih fuel (y + slice) _ _ (by omega) (by linarith) (by linarith) hrest]
    have e1 : ∀ k : ℤ, y + (k + 1) * slice = y + slice + k * slice := fun k => by ring
    have e2 : ∀ k : ℤ, data + (k + 1) * (stride * slice) =
        data + stride * slice + k * (stride * slice) := fun k => by ring
    simp only [Machine.issue_trace, Machine.issue_gl, Machine.issue_globals, GLCall.exec,
      List.range_succ_eq_map, List.map_cons, List.map_map, List.append_assoc,
      List.singleton_append, Function.comp_def, Nat.cast_zero, zero_mul, add_zero,
      Nat.cast_succ, e1, e2]

/-- `k` slices of `slice` rows that cover the `n` rows exactly: the loop issues all `k`
and ends at `y + n`. -/
theorem uploadSlices_cover (gl : GLContext) (target format type : ℕ) (stride x y w data : ℤ)
    (m : Machine) (k slice n : ℕ) (hslice : 0 < slice) (hcover : k * slice = n)
    (hints : ∀ v ∈ (uploadSlicesInts stride slice (y + n) ((n : ℤ).toNat + 1) y).1,
      InIntRange v) :
    uploadSlices gl target format type stride x w slice (y + n) ((n : ℤ).toNat + 1) y data m =
      pure (y + n, data + n * stride, { m with trace := m.trace ++ (List.range k).map fun i =>
        (m.gl, .texSubImage2D target 0 x (y + i * slice) w slice format type
          (data + i * (stride * slice))) }) := by
  subst hcover
  have hk : k ≤ k * slice := Nat.le_mul_of_pos_right k hslice
  rw [uploadSlices_eq gl target format type stride x w slice _ (by exact_mod_cast hslice) k _ y
    data m (by simp; omega) (by push_cast; rfl) (by push_cast; linarith) hints, Nat.cast_mul,
    mul_comm stride, ← mul_assoc]

/-! ### The slices of an upload -/

/-- The `glTexSubImage2D` calls of a trace, as `(yoffset, height, pixels)`. -/
def texSubImageCalls (t : List (GLState × GLCall)) : List (ℤ × ℤ × ℤ) :=
  t.filterMap fun e => match e.2 with
    | .texSubImage2D _ _ _ y _ h _ _ p => some (y, h, p)
    | _ => none

/-- `n` slices of `slice > 0` rows from row `y` tile the rows `[y, y + n * slice)`: each
is non-empty, starts where the one before ends, and reads from `data` advanced by
`stride` per row. -/
theorem slices_tile {y slice : ℤ} (data stride : ℤ) (n : ℕ) (hslice : 0 < slice) :
    let calls := (List.range n).map fun (k : ℕ) =>
      (y + k * slice, slice, data + k * (stride * slice))
    (∀ c ∈ calls, 0 < c.2.1 ∧ c.2.1 = slice ∧ c.2.2 = data + (c.1 - y) * stride) ∧
    calls.Chain' (fun c d => d.1 = c.1 + c.2.1) ∧
    (0 < n → calls.head?.map Prod.fst = some y) ∧
    ∀ r, (∃ c ∈ calls, c.1 ≤ r ∧ r < c.1 + c.2.1) ↔ y ≤ r ∧ r < y + n * slice := by
  refine ⟨?shape, ?chain, ?head, fun r => ?cover⟩
  case shape =>
    simp only [List.mem_map, List.mem_range]
    rintro _ ⟨k, -, rfl⟩
    exact ⟨hslice, rfl, by ring⟩
  case chain =>
    rw [List.chain'_map]
    cases n with
    | zero => exact List.chain'_nil
    | succ n => exact (List.chain'_range_succ _ n).mpr fun k _ => by push_cast; ring
  case head =>
    intro hn
    obtain ⟨n, rfl⟩ : ∃ k, n = k + 1 := ⟨n - 1, by omega⟩
    simp [List.range_succ_eq_map]
  case cover =>
    simp only [List.mem_map, List.mem_range, exists_exists_and_eq_and]
    constructor
    · rintro ⟨k, hk, h1, h2⟩
      have hkn : ((k + 1 : ℕ) : ℤ) * slice ≤ n * slice :=
        mul_le_mul_of_nonneg_right (by exact_mod_cast hk) hslice.le
      have hk0 : 0 ≤ (k : ℤ) * slice := by positivity
      push_cast [add_mul, one_mul] at hkn
      omega
    · rintro ⟨h1, h2⟩
      have hq := Int.ediv_mul_le (r - y) hslice.ne'
      have hq' := Int.lt_ediv_add_one_mul_self (r - y) hslice
      have hq0 : 0 ≤ (r - y) / slice := Int.ediv_nonneg (by omega) hslice.le
      refine ⟨((r - y) / slice).toNat, ?_, ?_, ?_⟩
      · have : (r - y) / slice < n := (Int.ediv_lt_iff_lt_mul hslice).mpr (by linarith)
        omega
      · rw [Int.toNat_of_nonneg hq0]; linarith
      · rw [Int.toNat_of_nonneg hq0]; linarith

section Slices

variable (glBytesPerPixel : ℕ → ℕ → ℤ)

/-- Past its early return, when none of its `int` expressions overflows, `gl_upload_tex`
sets up the pixel store, issues `h / slice` slices of `slice` rows in the state that
leaves, at rows `y + k * slice` from `dataptr + k * (stride * slice)`, and restores the
pixel store: `slice` is `h` or `1`, so the loop ends at `y + h` and the remainder call is
not issued. -/
theorem glUploadTex_eq (gl : GLContext) (target format type : ℕ) (dataptr stride x y w h : ℤ)
    (m : Machine) (hw : 0 < w) (hh : 0 < h) (hbpp : glBytesPerPixel format type ≠ 0)
    (hstride : 0 < stride) (hfits : UploadFits glBytesPerPixel gl format type stride y w h) :
    let slice := if gl.rowLength then h
      else if stride ≠ glBytesPerPixel format type * w then 1 else h
    let m₁ := m.issueAll (GLCall.pixelStorei .unpackAlignment (getAlignment stride) ::
      if gl.rowLength then
        [GLCall.pixelStorei .unpackRowLength (stride.tdiv (glBytesPerPixel format type))]
      else [])
    glUploadTex glBytesPerPixel gl target format type dataptr stride x y w h m =
      .ok ({ m₁ with trace := m₁.trace ++ (List.range (h / slice).toNat).map fun (k : ℕ) =>
          (m₁.gl, GLCall.texSubImage2D target 0 x (y + k * slice) w slice format type
            (dataptr + k * (stride * slice))) }.issueAll
        ((if gl.rowLength then [GLCall.pixelStorei .unpackRowLength 0] else []) ++
          [GLCall.pixelStorei .unpackAlignment 4])) := by
  obtain ⟨n, rfl⟩ : ∃ n : ℕ, h = n := ⟨h.toNat, by omega⟩
  have hn : 0 < n := by exact_mod_cast hh
  have hdiv : (n : ℤ) / n = 1 := Int.ediv_self (by omega)
  have hearly : ¬(w ≤ 0 ∨ (n : ℤ) ≤ 0 ∨ glBytesPerPixel format type = 0) := by omega
  simp only [UploadFits, glUploadTexInts, hearly, hstride, not_true_eq_false, or_false, if_false,
    List.forall_mem_cons] at hfits
  obtain ⟨hyMax, hrest⟩ := hfits
  dsimp only
  simp only [glUploadTex, intExpr_of_inRange hyMax, pure_bind, hearly, if_false, Machine.check,
    hstride, decide_True, if_true, Machine.call_of_needs, GLCall.needsVertexArrays]
  cases hrl : gl.rowLength <;> simp only [hrl, if_true, if_false, Bool.false_eq_true,
    List.forall_mem_cons, List.forall_mem_append] at hrest ⊢ <;>
    rw [intExpr_of_inRange hrest.1.1, pure_bind]
  case' false => by_cases hp : stride = glBytesPerPixel format type * w
  case' pos =>
    -- packed rows: one slice of `h` rows
    rw [if_neg (not_not.mpr hp)] at hrest ⊢
    rw [uploadSlices_cover gl target format type stride x y w dataptr _ 1 n n hn (one_mul n)
      hrest.1.2, hdiv]
  case' neg =>
    -- padded rows: `h` slices of one row
    rw [if_pos hp] at hrest ⊢
    have hrun := uploadSlices_cover gl target format type stride x y w dataptr
      (m.issue (.pixelStorei .unpackAlignment (getAlignment stride))) n 1 n one_pos (mul_one n)
      (by rw [Nat.cast_one]; exact hrest.1.2)
    rw [Nat.cast_one] at hrun
    rw [hrun, Int.ediv_one, Int.toNat_natCast]
  case' true =>
    -- row lengths: one slice of `h` rows
    rw [uploadSlices_cover gl target format type stride x y w dataptr _ 1 n n hn (one_mul n)
      hrest.1.2, hdiv]
  all_goals simp only [pure_bind, lt_self_iff_false, if_false]; rfl

/-- Every call of `gl_upload_tex` whose `stride` meets the assertion and whose `int`
expressions fit returns, changes no global, and leaves the context as it was, or, past
the early return, with `UNPACK_ALIGNMENT = 4` and, on a driver with row lengths,
`UNPACK_ROW_LENGTH = 0`. -/
theorem glUploadTex_gl (gl : GLContext) (target format type : ℕ) (dataptr stride x y w h : ℤ)
    (m : Machine) (hstride : ¬(w ≤ 0 ∨ h ≤ 0 ∨ glBytesPerPixel format type = 0) → 0 < stride)
    (hfits : UploadFits glBytesPerPixel gl format type stride y w h) :
    ∃ m', glUploadTex glBytesPerPixel gl target format type dataptr stride x y w h m = .ok m' ∧
      m'.globals = m.globals ∧
      (m'.gl = m.gl ∨ m'.gl =
        { m.gl with unpackAlignment := 4,
                    unpackRowLength := if gl.rowLength then 0 else m.gl.unpackRowLength }) := by
  by_cases hearly : w ≤ 0 ∨ h ≤ 0 ∨ glBytesPerPixel format type = 0
  · refine ⟨m, ?_, rfl, .inl rfl⟩
    simp only [glUploadTex, intExpr_of_inRange (hfits _ (List.mem_cons_self _ _)), pure_bind,
      hearly, if_true]
    rfl
  · refine ⟨_, glUploadTex_eq glBytesPerPixel gl target format type dataptr stride x y w h m
      (by omega) (by omega) (by omega) (hstride hearly) hfits, by simp, .inr ?_⟩
    cases gl.rowLength <;> simp [GLCall.exec]

/-- The `glTexSubImage2D` calls of an upload are its slices. -/
theorem glUploadTex_texSubImageCalls (gl : GLContext) (target format type : ℕ)
    (dataptr stride x y w h : ℤ) (m : Machine) (hw : 0 < w) (hh : 0 < h)
    (hbpp : glBytesPerPixel format type ≠ 0) (hstride : 0 < stride)
    (hfits : UploadFits glBytesPerPixel gl format type stride y w h) :
    let slice := if gl.rowLength then h
      else if stride ≠ glBytesPerPixel format type * w then 1 else h
    ∃ m', glUploadTex glBytesPerPixel gl target format type dataptr stride x y w h m = .ok m' ∧
      ∃ t, m'.trace = m.trace ++ t ∧
        texSubImageCalls t = (List.range (h / slice).toNat).map fun (k : ℕ) =>
          (y + k * slice, slice, dataptr + k * (stride * slice)) := by
  refine ⟨_, glUploadTex_eq glBytesPerPixel gl target format type dataptr stride x y w h m hw hh
    hbpp hstride hfits, ?_⟩
  simp only [Machine.issueAll_trace, List.append_assoc]
  refine ⟨_, rfl, ?_⟩
  cases gl.rowLength <;>
    simp only [GLCall.traceFrom, texSubImageCalls, List.filterMap_append, List.filterMap_cons,
      List.filterMap_nil, List.filterMap_map, if_true, if_false, Bool.false_eq_true,
      List.nil_append, List.append_nil, List.singleton_append, List.cons_append] <;>
    exact congrFun (List.filterMap_eq_map _) _

/-- **Upload slices.**  For every `y` and `h > 0` whose upload evaluates no `int`
expression out of range, past the early return, every `glTexSubImage2D` call of
`gl_upload_tex` covers `slice` rows, the height the function chooses, so the remainder
call, which would be shorter, is never issued; the first starts at `y`, each starts where
the one before ends, together they cover the rows `[y, y + h)` exactly, the one at row
`y'` reads from `dataptr + (y' - y) * stride`, and there are `h` of them when `slice = 1`
and one otherwise. -/
theorem glUploadTex_slices_partition (gl : GLContext) (target format type : ℕ)
    (dataptr stride x y w h : ℤ) (m : Machine) (hw : 0 < w) (hh : 0 < h)
    (hbpp : glBytesPerPixel format type ≠ 0) (hstride : 0 < stride)
    (hfits : UploadFits glBytesPerPixel gl format type stride y w h) :
    let slice := if gl.rowLength then h
      else if stride ≠ glBytesPerPixel format type * w then 1 else h
    ∃ m', glUploadTex glBytesPerPixel gl target format type dataptr stride x y w h m = .ok m' ∧
      ∃ t, m'.trace = m.trace ++ t ∧
        (∀ c ∈ texSubImageCalls t,
          0 < c.2.1 ∧ c.2.1 = slice ∧ c.2.2 = dataptr + (c.1 - y) * stride) ∧
        (texSubImageCalls t).head?.map Prod.fst = some y ∧
        (texSubImageCalls t).Chain' (fun c d => d.1 = c.1 + c.2.1) ∧
        (∀ r, (∃ c ∈ texSubImageCalls t, c.1 ≤ r ∧ r < c.1 + c.2.1) ↔ y ≤ r ∧ r < y + h) ∧
        (texSubImageCalls t).length = if slice = 1 then h.toNat else 1 := by
  intro slice
  have hs : slice = 1 ∨ slice = h := by simp only [slice]; split_ifs <;> simp
  have hslice : 0 < slice := by omega
  -- the loop runs `h / slice` times, which is `h` or `1`
  have hn : ((h / slice).toNat : ℤ) * slice = h := by
    rcases hs with hs | hs <;> simp [hs, Int.ediv_self hh.ne', hh.le]
  have hlen : (h / slice).toNat = if slice = 1 then h.toNat else 1 := by
    rcases hs with hs | hs <;> rw [hs]
    · simp
    · rw [Int.ediv_self hh.ne']; split_ifs <;> omega
  have hpos : 0 < (h / slice).toNat := by rw [hlen]; split_ifs <;> omega
  obtain ⟨m', hrun, t, htrace, hcalls⟩ := glUploadTex_texSubImageCalls glBytesPerPixel gl
    target format type dataptr stride x y w h m hw hh hbpp hstride hfits
  obtain ⟨hshape, hchain, hhead, hcover⟩ :=
    slices_tile (y := y) dataptr stride (h / slice).toNat hslice
  refine ⟨m', hrun, t, htrace, ?_⟩
  rw [hcalls, List.length_map, List.length_range]
  exact ⟨hshape, hhead hpos, hchain, fun r => by rw [hcover, hn], hlen⟩

/-- The scenario of the spec: `4 × 4` pixels of 4 bytes, rows 20 bytes apart, without row
lengths, go up in four one-row slices. -/
theorem glUploadTex_slices_partition_padded :
    ∃ m', glUploadTex (fun _ _ => 4) (GLContext.counting false 0 true) GL_TEXTURE_2D GL_RGBA
        GL_UNSIGNED_BYTE 0 20 0 0 4 4 { gl := GLState.initial } = .ok m' ∧
      ∃ t, m'.trace = [] ++ t ∧
        (∀ c ∈ texSubImageCalls t, 0 < c.2.1 ∧ c.2.1 = 1 ∧ c.2.2 = 0 + (c.1 - 0) * 20) ∧
        (texSubImageCalls t).head?.map Prod.fst = some 0 ∧
        (texSubImageCalls t).Chain' (fun c d => d.1 = c.1 + c.2.1) ∧
        (∀ r, (∃ c ∈ texSubImageCalls t, c.1 ≤ r ∧ r < c.1 + c.2.1) ↔ 0 ≤ r ∧ r < 0 + 4) ∧
        (texSubImageCalls t).length = 4 :=
  glUploadTex_slices_partition (fun _ _ => 4) (GLContext.counting false 0 true) GL_TEXTURE_2D
    GL_RGBA GL_UNSIGNED_BYTE 0 20 0 0 4 4 { gl := GLState.initial } (by decide) (by decide)
    (by decide) (by decide) (by decide)

/-- One row at `y = INT_MAX - 1`, one byte wide, without row lengths: the slice is uploaded,
and the test `y + slice <= y_max` that would end the loop overflows, so no partition of
the rows is reached. -/
theorem glUploadTex_overflows_below_int_max :
    glUploadTex (fun _ _ => 1) (GLContext.counting false 0 true) GL_TEXTURE_2D GL_RGBA
      GL_UNSIGNED_BYTE 0 1 0 (INT_MAX - 1) 1 1 { gl := GLState.initial } = .error .overflow :=
  rfl

example : (glUploadTex (fun _ _ => 4) (GLContext.counting false 0 true) GL_TEXTURE_2D GL_RGBA
      GL_UNSIGNED_BYTE 0 20 0 0 4 4 { gl := GLState.initial }).map
        (fun m => texSubImageCalls m.trace) =
      .ok [(0, 1, 0), (1, 1, 20), (2, 1, 40), (3, 1, 60)] := rfl

end Slices

/-! ### GL's unpack rule -/

/-- `n` rounded up to a multiple of `a > 0`. -/
def roundUp (n a : ℤ) : ℤ := (n + a - 1) / a * a

/-- The texels of the `w × h` rectangle at `(x, y)`, row by row, each with its source
address when the rows start `pitch` bytes apart from `p`: texel `(x + i, y + j)` from
`p + j * pitch + i * bpp`. -/
def rectWrites (bpp p pitch x y w h : ℤ) : List ((ℤ × ℤ) × ℤ) :=
  (List.range h.toNat).flatMap fun j =>
    (List.range w.toNat).map fun (i : ℕ) => ((x + i, y + j), p + j * pitch + i * bpp)

/-- The row pitch of GL's unpack rule under the pixel-store state of `s`, for rows `w`
pixels of `bpp` bytes wide: `bpp * L` rounded up to `UNPACK_ALIGNMENT`, with `L` the
row length, or `w` while it is `0`. -/
def rowPitch (s : GLState) (bpp w : ℤ) : ℤ :=
  roundUp (bpp * if s.unpackRowLength ≠ 0 then s.unpackRowLength else w) s.unpackAlignment

section Writes

variable (glBytesPerPixel : ℕ → ℕ → ℤ)

/-- The texels `glTexSubImage2D(target, 0, x, y, w, h, format, type, p)` writes when
issued in state `s`, each with the address of its first source byte. -/
def unpackWrites (s : GLState) : GLCall → List ((ℤ × ℤ) × ℤ)
  | .texSubImage2D _ _ x y w h format type p =>
    let bpp := glBytesPerPixel format type
    rectWrites bpp p (rowPitch s bpp w) x y w h
  | _ => []

/-- The texels the calls of a trace write, in order, with their source addresses. -/
def traceWrites (t : List (GLState × GLCall)) : List ((ℤ × ℤ) × ℤ) :=
  t.flatMap fun e => unpackWrites glBytesPerPixel e.1 e.2

end Writes

/-- Texel `p` lies in the `w × h` rectangle at `(x, y)`. -/
def InRect (x y w h : ℤ) (p : ℤ × ℤ) : Prop :=
  x ≤ p.1 ∧ p.1 < x + w ∧ y ≤ p.2 ∧ p.2 < y + h

instance (x y w h : ℤ) : DecidablePred (InRect x y w h) :=
  fun _ => inferInstanceAs (Decidable (_ ∧ _))

/-! ### The rectangle -/

theorem rectWrites_add_rows (bpp p pitch x y w : ℤ) (a b : ℕ) :
    rectWrites bpp p pitch x y w (a + b) =
      rectWrites bpp p pitch x y w a ++ rectWrites bpp (p + a * pitch) pitch x (y + a) w b := by
  simp only [rectWrites, ← Nat.cast_add, Int.toNat_natCast, List.range_add,
    List.flatMap_append, List.flatMap_map]
  congr 1
  refine List.flatMap_congr fun j _ => List.map_congr_left fun i _ => ?_
  push_cast
  ring_nf

/-- A single row does not depend on the pitch. -/
theorem rectWrites_one_row (bpp p pitch pitch' x y w : ℤ) :
    rectWrites bpp p pitch x y w 1 = rectWrites bpp p pitch' x y w 1 := by
  simp [rectWrites, List.range_succ]

/-- The texels of `rectWrites`, in order. -/
theorem rectWrites_texels (bpp p pitch x y w h : ℤ) :
    (rectWrites bpp p pitch x y w h).map Prod.fst = (List.range h.toNat).flatMap
      fun (j : ℕ) => (List.range w.toNat).map fun (i : ℕ) => (x + i, y + j) := by
  simp [rectWrites, List.map_flatMap, Function.comp_def]

theorem mem_rectTexels {x y w h : ℤ} {q : ℤ × ℤ} :
    q ∈ (List.range h.toNat).flatMap (fun (j : ℕ) =>
      (List.range w.toNat).map fun (i : ℕ) => (x + i, y + j)) ↔ InRect x y w h q := by
  obtain ⟨a, b⟩ := q
  simp only [List.mem_flatMap, List.mem_range, List.mem_map, Prod.mk.injEq, InRect]
  constructor
  · rintro ⟨j, hj, i, hi, rfl, rfl⟩
    omega
  · rintro ⟨h1, h2, h3, h4⟩
    exact ⟨(b - y).toNat, by omega, (a - x).toNat, by omega, by omega, by omega⟩

theorem rectTexels_nodup (x y w h : ℤ) :
    ((List.range h.toNat).flatMap fun (j : ℕ) =>
      (List.range w.toNat).map fun (i : ℕ) => (x + i, y + j)).Nodup := by
  refine List.nodup_flatMap.mpr ⟨fun j _ => (List.nodup_range _).map fun i i' h => ?_,
    (List.nodup_range _).pairwise_of_forall_ne fun j _ j' _ hne q hq hq' => hne ?_⟩
  · simpa using h
  · simp only [List.mem_map] at hq hq'
    obtain ⟨i, -, rfl⟩ := hq
    obtain ⟨i', -, h⟩ := hq'
    simp only [Prod.mk.injEq] at h
    omega

/-- Texel `(x + i, y + j)` is read from `p + j * pitch + i * bpp`. -/
theorem rectWrites_source {bpp p pitch x y w h a : ℤ} {i j : ℕ}
    (hw : ((x + i, y + j), a) ∈ rectWrites bpp p pitch x y w h) :
    a = p + j * pitch + i * bpp := by
  simp only [rectWrites, List.mem_flatMap, List.mem_map, Prod.mk.injEq] at hw
  obtain ⟨j', -, i', -, ⟨hi, hj⟩, rfl⟩ := hw
  obtain rfl : i' = i := by omega
  obtain rfl : j' = j := by omega
  rfl

/-! ### The row pitch `gl_upload_tex` sets up -/

theorem roundUp_getAlignment (stride : ℤ) : roundUp stride (getAlignment stride) = stride := by
  rw [roundUp]
  rcases getAlignment_cases stride with ⟨h, _⟩ | ⟨h, _⟩ | ⟨h, _⟩ | h <;> rw [h] <;> omega

/-- With row lengths, `UNPACK_ROW_LENGTH = stride / bpp` under
`UNPACK_ALIGNMENT = get_alignment(stride)` gives back the pitch `stride` exactly when
`stride % bpp < get_alignment(stride)`. -/
theorem rowPitch_eq_stride {bpp stride : ℤ} (hbpp : 0 < bpp) (hs : 0 < stride) :
    roundUp (bpp * stride.tdiv bpp) (getAlignment stride) = stride ↔
      stride.tmod bpp < getAlignment stride := by
  rw [Int.tdiv_eq_ediv hs.le hbpp.le, Int.tmod_eq_emod hs.le hbpp.le, roundUp]
  have := Int.ediv_add_emod stride bpp
  have := Int.emod_nonneg stride hbpp.ne'
  have := Int.emod_lt_of_pos stride hbpp
  rcases getAlignment_cases stride with ⟨h, _⟩ | ⟨h, _⟩ | ⟨h, _⟩ | h <;> rw [h] <;> omega

/-! ### What the upload writes -/

section Writes

variable (glBytesPerPixel : ℕ → ℕ → ℤ)

@[simp] theorem traceWrites_nil : traceWrites glBytesPerPixel [] = [] := rfl

@[simp] theorem traceWrites_append (t t' : List (GLState × GLCall)) :
    traceWrites glBytesPerPixel (t ++ t') =
      traceWrites glBytesPerPixel t ++ traceWrites glBytesPerPixel t' := by
  simp [traceWrites]

@[simp] theorem traceWrites_cons (s : GLState) (c : GLCall) (t : List (GLState × GLCall)) :
    traceWrites glBytesPerPixel ((s, c) :: t) =
      unpackWrites glBytesPerPixel s c ++ traceWrites glBytesPerPixel t := rfl

/-- `n` slices of `slice` rows, issued in one state, write the first `n * slice` rows of
the rectangle, when that state's row pitch is `stride` or the slices are single rows. -/
theorem traceWrites_slices (s : GLState) (target format type : ℕ) (x y w data stride : ℤ)
    (slice : ℕ) (hpitch : slice = 1 ∨ rowPitch s (glBytesPerPixel format type) w = stride) :
    ∀ n : ℕ, traceWrites glBytesPerPixel ((List.range n).map fun (k : ℕ) =>
      (s, .texSubImage2D target 0 x (y + k * slice) w slice format type
        (data + k * (stride * slice)))) =
      rectWrites (glBytesPerPixel format type) data stride x y w (n * slice : ℕ)
  | 0 => by simp [rectWrites]
  | n + 1 => by
    rw [List.range_succ, List.map_append, traceWrites_append,
      traceWrites_slices s target format type x y w data stride slice hpitch n, Nat.succ_mul,
      Nat.cast_add, rectWrites_add_rows]
    simp only [List.map_singleton, traceWrites_cons, traceWrites_nil, List.append_nil,
      unpackWrites]
    have hp : data + n * (stride * slice) = data + (n * slice : ℕ) * stride := by
      push_cast; ring
    have hy : y + n * (slice : ℤ) = y + (n * slice : ℕ) := by push_cast; ring
    rw [hp, hy]
    rcases hpitch with rfl | h
    · exact congrArg _ (rectWrites_one_row ..)
    · rw [h]

/-- On every path that passes its early return, `gl_upload_tex` issues calls whose
writes are the rectangle read with pitch `stride`, provided the pitch it sets up is
`stride` or it has no row lengths. -/
theorem glUploadTex_traceWrites (gl : GLContext) (target format type : ℕ)
    (dataptr stride x y w h : ℤ) (m : Machine) (hbpp : 0 < glBytesPerPixel format type)
    (hstride : glBytesPerPixel format type * w ≤ stride) (hw : 0 < w) (hh : 0 < h)
    (hrow : m.gl.unpackRowLength = 0)
    (hpitch : gl.rowLength = false ∨
      stride.tmod (glBytesPerPixel format type) < getAlignment stride)
    (hfits : UploadFits glBytesPerPixel gl format type stride y w h) :
    ∃ m', glUploadTex glBytesPerPixel gl target format type dataptr stride x y w h m = .ok m' ∧
      ∃ t, m'.trace = m.trace ++ t ∧
        traceWrites glBytesPerPixel t =
          rectWrites (glBytesPerPixel format type) dataptr stride x y w h := by
  have hs : 0 < stride := lt_of_lt_of_le (mul_pos hbpp hw) hstride
  refine ⟨_, glUploadTex_eq glBytesPerPixel gl target format type dataptr stride x y w h m hw hh
    hbpp.ne' hs hfits, ?_⟩
  simp only [Machine.issueAll_trace, List.append_assoc]
  refine ⟨_, rfl, ?_⟩
  obtain ⟨n, rfl⟩ : ∃ n : ℕ, h = n := ⟨h.toNat, by omega⟩
  have hdiv : (n : ℤ) / n = 1 := Int.ediv_self (by omega)
  cases hrl : gl.rowLength <;>
    simp only [if_true, if_false, Bool.false_eq_true, GLCall.traceFrom, traceWrites_append,
      traceWrites_cons, traceWrites_nil, unpackWrites, List.nil_append, List.append_nil,
      List.singleton_append, List.cons_append]
  case false =>
    by_cases hp : stride = glBytesPerPixel format type * w
    · -- packed rows: one slice of `h` rows, row length still `0`
      rw [if_neg (not_not.mpr hp), hdiv, Int.toNat_one]
      refine (traceWrites_slices glBytesPerPixel _ target format type x y w dataptr stride n
        (.inr ?_) 1).trans (by rw [Nat.one_mul])
      simp only [rowPitch, Machine.issueAll_cons, Machine.issueAll_nil, Machine.issue_gl,
        GLCall.exec, hrow, ne_eq, not_true_eq_false, if_false, ← hp, roundUp_getAlignment]
    · -- padded rows: `h` slices of one row
      rw [if_pos hp, Int.ediv_one, Int.toNat_natCast]
      exact (traceWrites_slices glBytesPerPixel _ target format type x y w dataptr stride 1
        (.inl rfl) n).trans (by rw [Nat.mul_one])
  case true =>
    -- row lengths: one slice of `h` rows, row length `stride / bpp`
    have hq : stride.tdiv (glBytesPerPixel format type) ≠ 0 := by
      rw [Int.tdiv_eq_ediv hs.le hbpp.le]
      have : w ≤ stride / glBytesPerPixel format type :=
        (Int.le_ediv_iff_mul_le hbpp).mpr (by linarith)
      omega
    rw [hdiv, Int.toNat_one]
    refine (traceWrites_slices glBytesPerPixel _ target format type x y w dataptr stride n
      (.inr ?_) 1).trans (by rw [Nat.one_mul])
    simp only [rowPitch, Machine.issueAll_cons, Machine.issueAll_nil, Machine.issue_gl,
      GLCall.exec, ne_eq, hq, not_false_eq_true, if_true]
    exact (rowPitch_eq_stride hbpp hs).mpr (hpitch.resolve_left (by simp [hrl]))

/-- **Upload correctness.**  Without row lengths, or when `stride % bpp` is below
`get_alignment(stride)`, and when none of its `int` expressions overflows, the calls
`gl_upload_tex` issues write each texel of the rectangle exactly once and no other texel,
texel `(x + i, y + j)` from `dataptr + j * stride + i * bpp`. -/
theorem glUploadTex_writes (gl : GLContext) (target format type : ℕ) (dataptr stride x y w h : ℤ)
    (m : Machine) (hbpp : 0 < glBytesPerPixel format type)
    (hstride : glBytesPerPixel format type * w ≤ stride) (hw : 0 < w) (hh : 0 < h)
    (hrow : m.gl.unpackRowLength = 0)
    (hpitch : gl.rowLength = false ∨
      stride.tmod (glBytesPerPixel format type) < getAlignment stride)
    (hfits : UploadFits glBytesPerPixel gl format type stride y w h) :
    ∃ m', glUploadTex glBytesPerPixel gl target format type dataptr stride x y w h m = .ok m' ∧
      ∃ t, m'.trace = m.trace ++ t ∧
        ((traceWrites glBytesPerPixel t).map Prod.fst).Nodup ∧
        (∀ q, q ∈ (traceWrites glBytesPerPixel t).map Prod.fst ↔ InRect x y w h q) ∧
        ∀ (i j : ℕ) (a : ℤ), ((x + i, y + j), a) ∈ traceWrites glBytesPerPixel t →
          a = dataptr + j * stride + i * glBytesPerPixel format type := by
  obtain ⟨m', hrun, t, htrace, hwrites⟩ := glUploadTex_traceWrites glBytesPerPixel gl target
    format type dataptr stride x y w h m hbpp hstride hw hh hrow hpitch hfits
  refine ⟨m', hrun, t, htrace, ?_, fun q => ?_, fun i j a ha => ?_⟩
  · rw [hwrites, rectWrites_texels]
    exact rectTexels_nodup x y w h
  · rw [hwrites, rectWrites_texels]
    exact mem_rectTexels
  · rw [hwrites] at ha
    exact rectWrites_source ha

end Writes

/-- The scenario of the spec: `4 × 4` pixels of 4 bytes, rows 20 bytes apart, on a
driver without row lengths. -/
theorem glUploadTex_writes_padded :
    ∃ m', glUploadTex (fun _ _ => 4) (GLContext.counting false 0 true) GL_TEXTURE_2D GL_RGBA
        GL_UNSIGNED_BYTE 0 20 0 0 4 4 { gl := GLState.initial } = .ok m' ∧
      ∃ t, m'.trace = [] ++ t ∧
        ((traceWrites (fun _ _ => 4) t).map Prod.fst).Nodup ∧
        (∀ q, q ∈ (traceWrites (fun _ _ => 4) t).map Prod.fst ↔ InRect 0 0 4 4 q) ∧
        ∀ (i j : ℕ) (a : ℤ), (((0 : ℤ) + i, (0 : ℤ) + j), a) ∈ traceWrites (fun _ _ => 4) t →
          a = 0 + j * 20 + i * 4 :=
  glUploadTex_writes (fun _ _ => 4) (GLContext.counting false 0 true) GL_TEXTURE_2D GL_RGBA
    GL_UNSIGNED_BYTE 0 20 0 0 4 4 { gl := GLState.initial } (by decide) (by decide) (by decide)
    (by decide) rfl (.inl rfl) (by decide)

/-- With row lengths, 3-byte pixels and rows 7 bytes apart, texel `(0, 1)` is read from
`dataptr + 6`, where the rectangle's second row starts at `dataptr + 7`. -/
theorem glUploadTex_misreads_odd_stride :
    (glUploadTex (fun _ _ => 3) (GLContext.counting true 0 true) GL_TEXTURE_2D GL_RGB GL_UNSIGNED_BYTE
        0 7 0 0 2 2 { gl := GLState.initial }).map (fun m => traceWrites (fun _ _ => 3) m.trace) =
      .ok [((0, 0), 0), ((1, 0), 3), ((0, 1), 6), ((1, 1), 9)] := rfl

end Mpv
