/-
Calls through the function table, and the machine that runs them.

`GLCall` lists the entry points `utils.c` calls, with their arguments; `GLCall.exec`
is what each does to a `GLState`.  A run of client code is a function of `Machine`
(the context's state, the calls issued so far, and the file-level variables of
`utils.c`) into `Except Fault Machine`:

* `Machine.call` issues one call: it is appended to the trace with the state it was
  issued in, or, when the context lacks the entry point, the run stops with
  `Fault.absent`;
* `Machine.call_of_provides` — on a context that has the entry point, a call is
  `pure (m.issue c)`; every later proof computes with this and never unfolds `call`.

Design notes: the function table `GL *gl` is `GLContext`.  Its entry points are all
present except the three vertex-array-object ones, loaded together or not at all
(`vertexArrayObjects`), which is how `if (gl->BindVertexArray)` reads.  Which fresh name
a `Gen`/`Create` call returns is the driver's choice, kept as the field `genName` with
its freshness as a field of its own, so every result holds for every driver.
-/
import Ffmpv.GL.State

namespace Mpv

/-- The four GLSL dialects `gui_create` carries shader sources for. -/
inductive GlslDialect
  | glsl120 | glsl130 | glsl300es | glsl410core
  deriving DecidableEq, Repr

/-- A call through the function table, with its arguments.  A `Gen`/`Create` call
carries the name the driver handed out; `bindTexture` and `bindFramebuffer` have the
only targets this file binds, `GL_TEXTURE_2D` and `GL_FRAMEBUFFER`. -/
inductive GLCall
  | activeTexture (texture : ℕ)
  | bindTexture (texture : ℕ)
  | texParameteri (target pname : ℕ) (param : ℤ)
  | texImage2D (target : ℕ) (level internalformat width height border : ℤ)
      (format type : ℕ) (pixels : ℤ)
  | texSubImage2D (target : ℕ) (level xoffset yoffset width height : ℤ)
      (format type : ℕ) (pixels : ℤ)
  | pixelStorei (pname : PixelStore) (param : ℤ)
  | bindFramebuffer (framebuffer : ℕ)
  | readBuffer (src : ℕ)
  | readPixels (x y width height : ℤ) (format type : ℕ) (pixels : ℤ)
  | genBuffer (name : ℕ)
  | bindBuffer (target : BufferTarget) (buffer : ℕ)
  | bufferData (target : BufferTarget) (size data : ℤ) (usage : ℕ)
  | deleteBuffer (buffer : ℕ)
  | genVertexArray (name : ℕ)
  | bindVertexArray (array : ℕ)
  | deleteVertexArray (array : ℕ)
  | enableVertexAttribArray (index : ℕ)
  | disableVertexAttribArray (index : ℕ)
  | vertexAttribPointer (index : ℕ) (size : ℤ) (type : ℕ) (normalized : Bool)
      (stride pointer : ℤ)
  | genTexture (name : ℕ)
  | createShader (type name : ℕ)
  | shaderSource (shader : ℕ) (dialect : GlslDialect) (type : ℕ)
  | compileShader (shader : ℕ)
  | createProgram (name : ℕ)
  | attachShader (program shader : ℕ)
  | linkProgram (program : ℕ)
  | useProgram (program : ℕ)
  | uniform1i (location v : ℤ)
  | uniformMatrix4fv (location : ℤ) (transpose : Bool) (value : List ℚ)
  | enable (cap : Cap)
  | disable (cap : Cap)
  | blendEquation (mode : ℕ)
  | blendFunc (sfactor dfactor : ℕ)
  | blendEquationSeparate (modeRGB modeAlpha : ℕ)
  | blendFuncSeparate (srcRGB dstRGB srcAlpha dstAlpha : ℕ)
  | viewport (x y width height : ℤ)
  | scissor (x y width height : ℤ)
  | drawArrays (mode : ℕ) (first count : ℤ)
  | drawElements (mode : ℕ) (count : ℤ) (type : ℕ) (indices : ℤ)

namespace VertexArray

/-- Attribute array `i` changed by `f`. -/
def setAttrib (i : ℕ) (f : AttribArray → AttribArray) (v : VertexArray) : VertexArray :=
  { v with attribs := Function.update v.attribs i (f (v.attribs i)) }

/-- Every binding of buffer `b` in the array reverted to `0`. -/
def unbindBuffer (b : ℕ) (v : VertexArray) : VertexArray where
  elementBuffer := if v.elementBuffer = b then 0 else v.elementBuffer
  attribs i := if (v.attribs i).buffer = b then { v.attribs i with buffer := 0 } else v.attribs i

end VertexArray

namespace GLState

/-- `glUniform*` on the current program; location `-1` is silently ignored. -/
def setUniform (loc : ℤ) (u : UniformValue) (s : GLState) : GLState :=
  { s with
    uniforms :=
      if loc = -1 then s.uniforms
      else Function.update s.uniforms s.currentProgram
        (Function.update (s.uniforms s.currentProgram) loc u) }

/-- `glDeleteBuffers` of a non-zero name: the name leaves the live set, and the
bindings of the context and of the bound vertex array that held it revert to `0`. -/
def deleteBufferName (b : ℕ) (s : GLState) : GLState :=
  { s.modifyBoundVertexArray (VertexArray.unbindBuffer b) with
    buffers := s.buffers.erase b
    arrayBufferBinding := if s.arrayBufferBinding = b then 0 else s.arrayBufferBinding }

/-- `glDeleteVertexArrays` of a non-zero name; a bound array reverts the binding to `0`. -/
def deleteVertexArrayName (n : ℕ) (s : GLState) : GLState :=
  { s with
    vertexArrays := eraseEntry n s.vertexArrays
    vertexArrayBinding := if s.vertexArrayBinding = n then 0 else s.vertexArrayBinding }

end GLState

namespace GLCall

/-- What a call does to the context.  Argument errors (`GL_INVALID_VALUE` and the like)
are not modelled: a call takes effect as if its arguments were valid.  Calls that only
write texture images, shader objects or the framebuffer leave `GLState` as it is. -/
def exec : GLCall → GLState → GLState
  | activeTexture t, s => { s with activeTexture := t }
  | bindTexture t, s =>
    { s with textureBinding2D := Function.update s.textureBinding2D s.activeTexture t }
  | texParameteri .., s => s
  | texImage2D .., s => s
  | texSubImage2D .., s => s
  | pixelStorei .unpackAlignment v, s => { s with unpackAlignment := v }
  | pixelStorei .unpackRowLength v, s => { s with unpackRowLength := v }
  | pixelStorei .packAlignment v, s => { s with packAlignment := v }
  | bindFramebuffer f, s => { s with framebufferBinding := f }
  | readBuffer _, s => s
  | readPixels .., s => s
  | genBuffer n, s =>
    { s with buffers := n :: s.buffers, bufferData := Function.update s.bufferData n ⟨0, 0⟩ }
  | bindBuffer .array b, s => { s with arrayBufferBinding := b }
  | bindBuffer .elementArray b, s => s.modifyBoundVertexArray fun v => { v with elementBuffer := b }
  | bufferData t size data _, s =>
    { s with bufferData := Function.update s.bufferData (s.boundBuffer t) ⟨data, size⟩ }
  | deleteBuffer b, s => if b = 0 then s else s.deleteBufferName b
  | genVertexArray n, s => { s with vertexArrays := (n, {}) :: s.vertexArrays }
  | bindVertexArray n, s => { s with vertexArrayBinding := n }
  | deleteVertexArray n, s => if n = 0 then s else s.deleteVertexArrayName n
  | enableVertexAttribArray i, s =>
    s.modifyBoundVertexArray (VertexArray.setAttrib i fun a => { a with enabled := true })
  | disableVertexAttribArray i, s =>
    s.modifyBoundVertexArray (VertexArray.setAttrib i fun a => { a with enabled := false })
  | vertexAttribPointer i size type normalized stride pointer, s =>
    s.modifyBoundVertexArray (VertexArray.setAttrib i fun a =>
      { a with size, type, normalized, stride, pointer, buffer := s.arrayBufferBinding })
  | genTexture n, s => { s with textures := n :: s.textures }
  | createShader _ n, s => { s with shaders := n :: s.shaders }
  | shaderSource .., s => s
  | compileShader _, s => s
  | createProgram n, s => { s with programs := n :: s.programs }
  | attachShader .., s => s
  | linkProgram _, s => s
  | useProgram p, s => { s with currentProgram := p }
  | uniform1i loc v, s => s.setUniform loc (.int v)
  | uniformMatrix4fv loc tr m, s => s.setUniform loc (.mat4 tr m)
  | enable c, s => { s with enabled := Function.update s.enabled c true }
  | disable c, s => { s with enabled := Function.update s.enabled c false }
  | blendEquation m, s => { s with blendEquationRGB := m, blendEquationAlpha := m }
  | blendFunc sf df, s =>
    { s with blendSrcRGB := sf, blendSrcAlpha := sf, blendDstRGB := df, blendDstAlpha := df }
  | blendEquationSeparate mr ma, s => { s with blendEquationRGB := mr, blendEquationAlpha := ma }
  | blendFuncSeparate sr dr sa da, s =>
    { s with blendSrcRGB := sr, blendDstRGB := dr, blendSrcAlpha := sa, blendDstAlpha := da }
  | viewport x y w h, s => { s with viewport := ⟨x, y, w, h⟩ }
  | scissor x y w h, s => { s with scissorBox := ⟨x, y, w, h⟩ }
  | drawArrays .., s => s
  | drawElements .., s => s

/-- The calls that go through a vertex-array-object entry point. -/
def needsVertexArrays : GLCall → Bool
  | genVertexArray _ | bindVertexArray _ | deleteVertexArray _ => true
  | _ => false

end GLCall

/-- The function table `GL *gl`, as far as `utils.c` looks at it. -/
structure GLContext where
  /-- `gl->mpgl_caps & MPGL_CAP_ROW_LENGTH` -/
  rowLength : Bool
  /-- `gl->es`: the GLES version, `0` on desktop GL. -/
  es : ℕ
  /-- Whether `GenVertexArrays`, `BindVertexArray` and `DeleteVertexArrays` are loaded. -/
  vertexArrayObjects : Bool
  /-- The name a `Gen`/`Create` call returns, given the live names it must avoid. -/
  genName : List ℕ → ℕ
  genName_fresh : ∀ l, genName l ∉ l
  genName_pos : ∀ l, 0 < genName l
  /-- `glGetUniformLocation` and `glGetAttribLocation` of a linked program. -/
  uniformLocation : ℕ → String → ℤ
  attribLocation : ℕ → String → ℤ

/-- One more than the largest name of `l`. -/
def nextName (l : List ℕ) : ℕ := l.foldr max 0 + 1

theorem nextName_not_mem (l : List ℕ) : nextName l ∉ l := by
  suffices ∀ a ∈ l, a ≤ l.foldr max 0 from fun h => by
    have := this _ h
    simp only [nextName] at this
    omega
  induction l with
  | nil => simp
  | cons b l ih =>
    intro a ha
    rcases List.mem_cons.mp ha with rfl | ha
    · simp only [List.foldr_cons]; omega
    · have := ih a ha; simp only [List.foldr_cons]; omega

/-- A driver handing out `nextName` of the live names, with the given capability bits
and every uniform and attribute at location `0`. -/
def GLContext.counting (rowLength : Bool) (es : ℕ) (vertexArrayObjects : Bool) : GLContext where
  rowLength := rowLength
  es := es
  vertexArrayObjects := vertexArrayObjects
  genName := nextName
  genName_fresh := nextName_not_mem
  genName_pos _ := Nat.succ_pos _
  uniformLocation _ _ := 0
  attribLocation _ _ := 0

/-- Whether the entry point of `c` is loaded. -/
def GLContext.provides (gl : GLContext) (c : GLCall) : Bool :=
  gl.vertexArrayObjects || !c.needsVertexArrays

/-- Why a run stops. -/
inductive Fault
  /-- a call through a `NULL` entry of the function table -/
  | absent (call : GLCall)
  /-- a failed `assert` -/
  | assertion
  /-- `abort()` -/
  | abort
  /-- `vao->gl` used while `NULL` -/
  | nullContext
  /-- a loop ran past the iteration bound the model gives it -/
  | fuel
  /-- a signed `int` expression out of the range of `int`, which is undefined behaviour -/
  | overflow

/-- The file-level variables of `utils.c`, and the one ImGui field it writes. -/
structure Globals where
  gFontTexture : ℕ := 0
  gShaderHandle : ℕ := 0
  gVertHandle : ℕ := 0
  gFragHandle : ℕ := 0
  gAttribLocationTex : ℤ := 0
  gAttribLocationProjMtx : ℤ := 0
  gAttribLocationPosition : ℤ := 0
  gAttribLocationUV : ℤ := 0
  gAttribLocationColor : ℤ := 0
  gVboHandle : ℕ := 0
  gElementsHandle : ℕ := 0
  /-- `io->Fonts->TexID` -/
  fontsTexID : ℕ := 0

/-- The state a run of `utils.c` code changes: the context, the calls issued so far
(each with the state it was issued in), and the file-level variables. -/
structure Machine where
  gl : GLState
  trace : List (GLState × GLCall) := []
  globals : Globals := {}

namespace Machine

/-- Issue `c`: record it with the current state, then apply it. -/
def issue (c : GLCall) (m : Machine) : Machine :=
  { m with gl := c.exec m.gl, trace := m.trace ++ [(m.gl, c)] }

/-- `gl->X(...)`: a call through the function table. -/
def call (gl : GLContext) (c : GLCall) (m : Machine) : Except Fault Machine :=
  if gl.provides c then pure (m.issue c) else throw (.absent c)

/-- `assert(b)`. -/
def check (b : Bool) (m : Machine) : Except Fault Machine :=
  if b then pure m else throw .assertion

@[simp] theorem issue_gl (c : GLCall) (m : Machine) : (m.issue c).gl = c.exec m.gl := rfl

@[simp] theorem issue_trace (c : GLCall) (m : Machine) :
    (m.issue c).trace = m.trace ++ [(m.gl, c)] := rfl

@[simp] theorem issue_globals (c : GLCall) (m : Machine) : (m.issue c).globals = m.globals :=
  rfl

theorem call_of_provides {gl : GLContext} {c : GLCall} (h : gl.provides c = true) (m : Machine) :
    m.call gl c = pure (m.issue c) := by
  simp [call, h]

theorem call_of_absent {gl : GLContext} {c : GLCall} (h : gl.provides c = false) (m : Machine) :
    m.call gl c = throw (.absent c) := by
  simp [call, h]

end Machine

theorem GLContext.provides_of_needs {gl : GLContext} {c : GLCall} (h : c.needsVertexArrays = false) :
    gl.provides c = true := by
  simp [GLContext.provides, h]

/-- A call through no vertex-array-object entry point always gets through. -/
theorem Machine.call_of_needs {gl : GLContext} {c : GLCall} (h : c.needsVertexArrays = false)
    (m : Machine) : m.call gl c = pure (m.issue c) :=
  Machine.call_of_provides (GLContext.provides_of_needs h) m

theorem GLContext.provides_of_vertexArrayObjects {gl : GLContext} (h : gl.vertexArrayObjects = true)
    (c : GLCall) : gl.provides c = true := by
  simp [GLContext.provides, h]

/-- On a context with vertex-array objects every call gets through. -/
theorem Machine.call_of_vertexArrayObjects {gl : GLContext} (h : gl.vertexArrayObjects = true)
    (c : GLCall) (m : Machine) : m.call gl c = pure (m.issue c) :=
  Machine.call_of_provides (GLContext.provides_of_vertexArrayObjects h c) m

/-! ### Runs of calls -/

/-- The states a run of calls goes through from `s`, each with the call issued in it. -/
def GLCall.traceFrom : GLState → List GLCall → List (GLState × GLCall)
  | _, [] => []
  | s, c :: cs => (s, c) :: traceFrom (c.exec s) cs

theorem GLCall.traceFrom_append (s : GLState) (cs cs' : List GLCall) :
    traceFrom s (cs ++ cs') = traceFrom s cs ++ traceFrom (cs.foldl (fun s c => c.exec s) s) cs' := by
  induction cs generalizing s <;> simp [traceFrom, *]

/-- The calls `cs`, one after the other. -/
def Machine.callAll (gl : GLContext) : List GLCall → Machine → Except Fault Machine
  | [], m => pure m
  | c :: cs, m => do
    let m ← m.call gl c
    callAll gl cs m

/-- `cs` issued one after the other. -/
def Machine.issueAll (cs : List GLCall) (m : Machine) : Machine :=
  cs.foldl (fun m c => m.issue c) m

namespace Machine

@[simp] theorem issueAll_nil (m : Machine) : m.issueAll [] = m := rfl

@[simp] theorem issueAll_cons (c : GLCall) (cs : List GLCall) (m : Machine) :
    m.issueAll (c :: cs) = (m.issue c).issueAll cs := rfl

@[simp] theorem issueAll_append (cs cs' : List GLCall) (m : Machine) :
    m.issueAll (cs ++ cs') = (m.issueAll cs).issueAll cs' := List.foldl_append _ _ _ _

@[simp] theorem issueAll_gl (cs : List GLCall) (m : Machine) :
    (m.issueAll cs).gl = cs.foldl (fun s c => c.exec s) m.gl := by
  induction cs generalizing m <;> simp [*]

@[simp] theorem issueAll_globals (cs : List GLCall) (m : Machine) :
    (m.issueAll cs).globals = m.globals := by
  induction cs generalizing m <;> simp [*]

@[simp] theorem issueAll_trace (cs : List GLCall) (m : Machine) :
    (m.issueAll cs).trace = m.trace ++ GLCall.traceFrom m.gl cs := by
  induction cs generalizing m <;> simp [*, GLCall.traceFrom]

theorem callAll_of_provides {gl : GLContext} {cs : List GLCall}
    (h : ∀ c ∈ cs, gl.provides c = true) (m : Machine) : m.callAll gl cs = pure (m.issueAll cs) := by
  induction cs generalizing m with
  | nil => rfl
  | cons c cs ih =>
    rw [callAll, call_of_provides (h c (List.mem_cons_self c cs)), pure_bind,
      ih fun c' hc' => h c' (List.mem_cons_of_mem c hc')]
    rfl

/-- On a context with vertex-array objects a run of calls always gets through. -/
theorem callAll_of_vertexArrayObjects {gl : GLContext} (h : gl.vertexArrayObjects = true)
    (cs : List GLCall) (m : Machine) : m.callAll gl cs = pure (m.issueAll cs) :=
  callAll_of_provides (fun c _ => GLContext.provides_of_vertexArrayObjects h c) m

/-- A run of calls stops at the first one whose entry point is missing. -/
theorem callAll_append_absent {gl : GLContext} {cs : List GLCall} {c : GLCall}
    (h : ∀ c ∈ cs, gl.provides c = true) (hc : gl.provides c = false) (cs' : List GLCall)
    (m : Machine) : m.callAll gl (cs ++ c :: cs') = throw (.absent c) := by
  induction cs generalizing m with
  | nil => simp only [List.nil_append, callAll, call_of_absent hc]; rfl
  | cons c₀ cs ih =>
    rw [List.cons_append, callAll, call_of_provides (h c₀ (List.mem_cons_self c₀ cs)), pure_bind,
      ih fun c' hc' => h c' (List.mem_cons_of_mem c₀ hc')]

end Machine

/-! ### Generating names -/

/-- The names a new shader or program must avoid: the two share one namespace. -/
def GLState.shaderNames (s : GLState) : List ℕ := s.shaders ++ s.programs

/-- `glGen*(1, &n)` or `n = glCreate*()`: the call `mk n` with the name the driver picks
among those not in `live`. -/
def Machine.gen (gl : GLContext) (live : GLState → List ℕ) (mk : ℕ → GLCall) (m : Machine) :
    Except Fault (ℕ × Machine) :=
  let n := gl.genName (live m.gl)
  (n, ·) <$> m.call gl (mk n)

theorem Machine.gen_of_provides {gl : GLContext} {live : GLState → List ℕ} {mk : ℕ → GLCall}
    (m : Machine) (h : gl.provides (mk (gl.genName (live m.gl))) = true) :
    m.gen gl live mk = pure (gl.genName (live m.gl), m.issue (mk (gl.genName (live m.gl)))) := by
  simp only [gen, call_of_provides h]
  rfl

end Mpv
