/-
The OpenGL context as explicit state.

mpv reaches the driver only through the function table `GL *gl`: every `gl->X(...)`
changes the one implicit context and every `gl->GetIntegerv` reads it.  `GLState` is
that context as a record, holding what the calls of `video/out/opengl/utils.c` set or
read:

* the bindings: active texture unit, the `TEXTURE_2D` binding of every unit, program,
  vertex array, `ARRAY_BUFFER`, framebuffer;
* every vertex-array object with its element buffer and attribute arrays;
* viewport, scissor box, blend equations and functions, the four enables;
* the pixel-store state;
* the live names of each object kind, with the contents of buffers and uniforms.

Design notes: a live vertex array keeps its state next to its name in `vertexArrays`,
so deleting the array deletes its state and a new array starts from `{}`.  Texture
images, shader sources, the read buffer and the framebuffer are not state here: the
calls that write them are kept in the trace of `Machine` (`GL/Call.lean`).
-/
import Mathlib.Data.Rat.Defs
import Mathlib.Logic.Function.Basic
import Mathlib.Tactic.Linarith
import Mathlib.Tactic.Positivity
import Mathlib.Tactic.Ring

namespace Mpv

/-! ### Enumerants passed as values -/

def GL_TEXTURE0 : ℕ := 0x84C0
def GL_FUNC_ADD : ℕ := 0x8006
def GL_ZERO : ℕ := 0
def GL_ONE : ℕ := 1
def GL_SRC_ALPHA : ℕ := 0x0302
def GL_ONE_MINUS_SRC_ALPHA : ℕ := 0x0303
def GL_TRIANGLES : ℕ := 0x0004
def GL_UNSIGNED_BYTE : ℕ := 0x1401
def GL_UNSIGNED_SHORT : ℕ := 0x1403
def GL_INT : ℕ := 0x1404
def GL_UNSIGNED_INT : ℕ := 0x1405
def GL_FLOAT : ℕ := 0x1406
def GL_TEXTURE_2D : ℕ := 0x0DE1
def GL_RGB : ℕ := 0x1907
def GL_RGBA : ℕ := 0x1908
def GL_LINEAR : ℤ := 0x2601
def GL_TEXTURE_MAG_FILTER : ℕ := 0x2800
def GL_TEXTURE_MIN_FILTER : ℕ := 0x2801
def GL_FRONT : ℕ := 0x0404
def GL_COLOR_ATTACHMENT0 : ℕ := 0x8CE0
def GL_STREAM_DRAW : ℕ := 0x88E0
def GL_FRAGMENT_SHADER : ℕ := 0x8B30
def GL_VERTEX_SHADER : ℕ := 0x8B31

/-- The capabilities this file enables and disables. -/
inductive Cap
  | blend | cullFace | depthTest | scissorTest
  deriving DecidableEq, Repr

/-- The buffer binding points this file uses. -/
inductive BufferTarget
  | array | elementArray
  deriving DecidableEq, Repr

/-- The `glPixelStorei` parameters this file sets. -/
inductive PixelStore
  | unpackAlignment | unpackRowLength | packAlignment
  deriving DecidableEq, Repr

/-! ### Objects -/

/-- One generic vertex attribute array: its enable bit and the pointer last given by
`glVertexAttribPointer`, with the `ARRAY_BUFFER` binding it captured. -/
structure AttribArray where
  enabled : Bool := false
  size : ℤ := 4
  type : ℕ := GL_FLOAT
  normalized : Bool := false
  stride : ℤ := 0
  pointer : ℤ := 0
  buffer : ℕ := 0

/-- The state a vertex-array object holds. -/
structure VertexArray where
  elementBuffer : ℕ := 0
  attribs : ℕ → AttribArray := fun _ => {}

/-- The data store of a buffer: the client pointer and byte count of the last
`glBufferData`. -/
structure BufferStore where
  data : ℤ
  size : ℤ
  deriving DecidableEq, Repr

/-- The value of one uniform of a program. -/
inductive UniformValue
  | unset
  | int (v : ℤ)
  | mat4 (transpose : Bool) (m : List ℚ)

/-- A viewport or scissor box, `(x, y, width, height)` as `glGetIntegerv` returns it. -/
structure Rect where
  x : ℤ
  y : ℤ
  width : ℤ
  height : ℤ
  deriving DecidableEq, Repr

/-! ### Association lists of named objects -/

section Entries

variable {α : Type}

/-- The entry named `n` (the first one). -/
def findEntry (n : ℕ) : List (ℕ × α) → Option α
  | [] => none
  | (m, a) :: l => if m = n then some a else findEntry n l

/-- `f` applied to the entry named `n` (the first one). -/
def modifyEntry (n : ℕ) (f : α → α) : List (ℕ × α) → List (ℕ × α)
  | [] => []
  | (m, a) :: l => if m = n then (m, f a) :: l else (m, a) :: modifyEntry n f l

/-- The list without the entry named `n` (the first one). -/
def eraseEntry (n : ℕ) : List (ℕ × α) → List (ℕ × α)
  | [] => []
  | (m, a) :: l => if m = n then l else (m, a) :: eraseEntry n l

@[simp] theorem findEntry_cons_self (n : ℕ) (a : α) (l : List (ℕ × α)) :
    findEntry n ((n, a) :: l) = some a := by simp [findEntry]

@[simp] theorem modifyEntry_cons_self (n : ℕ) (f : α → α) (a : α) (l : List (ℕ × α)) :
    modifyEntry n f ((n, a) :: l) = (n, f a) :: l := by simp [modifyEntry]

@[simp] theorem eraseEntry_cons_self (n : ℕ) (a : α) (l : List (ℕ × α)) :
    eraseEntry n ((n, a) :: l) = l := by simp [eraseEntry]

@[simp] theorem modifyEntry_id (n : ℕ) (l : List (ℕ × α)) : modifyEntry n (fun a => a) l = l := by
  induction l with
  | nil => rfl
  | cons e l ih => obtain ⟨m, a⟩ := e; by_cases h : m = n <;> simp [modifyEntry, h, ih]

@[simp] theorem modifyEntry_modifyEntry (n : ℕ) (f g : α → α) (l : List (ℕ × α)) :
    modifyEntry n f (modifyEntry n g l) = modifyEntry n (fun a => f (g a)) l := by
  induction l with
  | nil => rfl
  | cons e l ih => obtain ⟨m, a⟩ := e; by_cases h : m = n <;> simp [modifyEntry, h, ih]

end Entries

/-! ### The context -/

/-- The state of one GL context, as far as `utils.c` sets or reads it. -/
structure GLState where
  /-- `GL_ACTIVE_TEXTURE`, an enumerant `GL_TEXTURE0 + i`. -/
  activeTexture : ℕ
  /-- `GL_TEXTURE_BINDING_2D` of each unit, keyed by its `GL_TEXTUREi` enumerant. -/
  textureBinding2D : ℕ → ℕ
  currentProgram : ℕ
  vertexArrayBinding : ℕ
  arrayBufferBinding : ℕ
  framebufferBinding : ℕ
  /-- Vertex array `0`, used while no vertex-array object is bound. -/
  defaultVertexArray : VertexArray
  /-- The live vertex-array objects, each with its state. -/
  vertexArrays : List (ℕ × VertexArray)
  viewport : Rect
  scissorBox : Rect
  blendEquationRGB : ℕ
  blendEquationAlpha : ℕ
  blendSrcRGB : ℕ
  blendDstRGB : ℕ
  blendSrcAlpha : ℕ
  blendDstAlpha : ℕ
  enabled : Cap → Bool
  unpackAlignment : ℤ
  unpackRowLength : ℤ
  packAlignment : ℤ
  /-- Live names of buffers, textures, shaders and programs. -/
  buffers : List ℕ
  textures : List ℕ
  shaders : List ℕ
  programs : List ℕ
  bufferData : ℕ → BufferStore
  /-- Uniform values, by program and location. -/
  uniforms : ℕ → ℤ → UniformValue

namespace GLState

/-- A context as created: nothing bound, no objects, both alignments 4. -/
def initial : GLState where
  activeTexture := GL_TEXTURE0
  textureBinding2D := fun _ => 0
  currentProgram := 0
  vertexArrayBinding := 0
  arrayBufferBinding := 0
  framebufferBinding := 0
  defaultVertexArray := {}
  vertexArrays := []
  viewport := ⟨0, 0, 0, 0⟩
  scissorBox := ⟨0, 0, 0, 0⟩
  blendEquationRGB := GL_FUNC_ADD
  blendEquationAlpha := GL_FUNC_ADD
  blendSrcRGB := GL_ONE
  blendDstRGB := GL_ZERO
  blendSrcAlpha := GL_ONE
  blendDstAlpha := GL_ZERO
  enabled := fun _ => false
  unpackAlignment := 4
  unpackRowLength := 0
  packAlignment := 4
  buffers := []
  textures := []
  shaders := []
  programs := []
  bufferData := fun _ => ⟨0, 0⟩
  uniforms := fun _ _ => .unset

/-- The live vertex-array names. -/
def vertexArrayNames (s : GLState) : List ℕ := s.vertexArrays.map Prod.fst

/-- The vertex array the attribute and element-buffer calls act on. -/
def boundVertexArray (s : GLState) : VertexArray :=
  if s.vertexArrayBinding = 0 then s.defaultVertexArray
  else (findEntry s.vertexArrayBinding s.vertexArrays).getD {}

/-- `f` applied to the bound vertex array. -/
def modifyBoundVertexArray (f : VertexArray → VertexArray) (s : GLState) : GLState :=
  { s with
    defaultVertexArray :=
      if s.vertexArrayBinding = 0 then f s.defaultVertexArray else s.defaultVertexArray
    vertexArrays :=
      if s.vertexArrayBinding = 0 then s.vertexArrays
      else modifyEntry s.vertexArrayBinding f s.vertexArrays }

@[simp] theorem modifyBoundVertexArray_id (s : GLState) :
    s.modifyBoundVertexArray (fun v => v) = s := by
  simp only [modifyBoundVertexArray, modifyEntry_id, ite_self]

@[simp] theorem modifyBoundVertexArray_comp (f g : VertexArray → VertexArray) (s : GLState) :
    (s.modifyBoundVertexArray g).modifyBoundVertexArray f =
      s.modifyBoundVertexArray fun v => f (g v) := by
  simp only [modifyBoundVertexArray]
  split_ifs <;> simp

/-- The buffer bound to `target`: `ELEMENT_ARRAY_BUFFER` is state of the bound vertex
array. -/
def boundBuffer (s : GLState) : BufferTarget → ℕ
  | .array => s.arrayBufferBinding
  | .elementArray => s.boundVertexArray.elementBuffer

end GLState

end Mpv
