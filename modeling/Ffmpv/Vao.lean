/-
Vertex-array objects and the overlay's device objects: `gl_vao_init`, `gl_vao_uninit`,
`gl_vao_bind`, `gl_vao_unbind`, and `gui_create` with `create_fonts_texture`.

`gl_vao_init` makes a buffer, and on a context with vertex-array objects a vertex array
whose attribute pointers are set once; without them `gl_vao_bind` sets the pointers on
every draw.  It then runs `gui_create`, which makes the overlay's shaders, program,
buffers and font texture, kept in the file-level variables of `utils.c`.

Design notes: a `struct gl_vao` is `GlVao`, its `gl` pointer an `Option`.  The entries
are a list, `num_entries` its length.  The shader sources are the `GlslDialect` they
are written in; `g_GlslVersionString` is the constant `"#version 440"`, so `glsl_version`
is `440`.  `CheckShader` and `CheckProgram` only read the compile and link status and
print the log, and change nothing.  The font atlas is ImGui's and is an argument.
-/
import Ffmpv.GL.Call

namespace Mpv

/-! ### Vertex formats -/

/-- `enum ra_vartype`, as far as `gl_vao_enable_attribs` tells its values apart. -/
inductive RaVartype
  | int | float | byteUnorm
  /-- any other `ra_vartype` -/
  | other
  deriving DecidableEq, Repr

/-- `struct ra_renderpass_input`: the fields a vertex attribute uses. -/
structure RaRenderpassInput where
  type : RaVartype
  dimV : ℤ
  dimM : ℤ
  offset : ℤ
  deriving DecidableEq, Repr

/-- `struct gl_vao`; `{}` is the zeroed struct. -/
structure GlVao where
  gl : Option GLContext := none
  vao : ℕ := 0
  buffer : ℕ := 0
  stride : ℤ := 0
  entries : List RaRenderpassInput := []

/-- The `switch` of `gl_vao_enable_attribs`: the GL type and `normalized`, or `abort()`. -/
def attribFormat : RaVartype → Except Fault (ℕ × Bool)
  | .int => pure (GL_INT, false)
  | .float => pure (GL_FLOAT, false)
  | .byteUnorm => pure (GL_UNSIGNED_BYTE, true)
  | .other => throw .abort

/-- The loop of `gl_vao_enable_attribs` from attribute index `n` on. -/
def glVaoEnableAttribs (gl : GLContext) (stride : ℤ) :
    List RaRenderpassInput → ℕ → Machine → Except Fault Machine
  | [], _, m => pure m
  | e :: es, n, m => do
    let (type, normalized) ← attribFormat e.type
    let m ← m.check (e.dimM = 1)
    let m ← m.call gl (.enableVertexAttribArray n)
    let m ← m.call gl (.vertexAttribPointer n e.dimV type normalized stride e.offset)
    glVaoEnableAttribs gl stride es (n + 1) m

/-! ### The overlay's device objects -/

/-- What `ImFontAtlas_GetTexDataAsRGBA32` returns. -/
structure FontAtlas where
  pixels : ℤ
  width : ℤ
  height : ℤ

/-- `create_fonts_texture`: a texture for the font atlas, bound only while it is filled. -/
def createFontsTexture (gl : GLContext) (atlas : FontAtlas) (m : Machine) :
    Except Fault (Bool × Machine) := do
  let lastTexture := m.gl.textureBinding2D m.gl.activeTexture
  let (tex, m) ← m.gen gl GLState.textures .genTexture
  let m := { m with globals.gFontTexture := tex }
  let m ← m.call gl (.bindTexture tex)
  let m ← m.call gl (.texParameteri GL_TEXTURE_2D GL_TEXTURE_MIN_FILTER GL_LINEAR)
  let m ← m.call gl (.texParameteri GL_TEXTURE_2D GL_TEXTURE_MAG_FILTER GL_LINEAR)
  let m ← m.call gl (.pixelStorei .unpackRowLength 0)
  let m ← m.call gl (.texImage2D GL_TEXTURE_2D 0 GL_RGBA atlas.width atlas.height 0 GL_RGBA
    GL_UNSIGNED_BYTE atlas.pixels)
  let m := { m with globals.fontsTexID := tex }
  let m ← m.call gl (.bindTexture lastTexture)
  return (true, m)

/-- `glsl_version` as `sscanf` reads it from `g_GlslVersionString`. -/
def glslVersion : ℤ := 440

/-- The shader pair `gui_create` selects for a GLSL version. -/
def shaderDialect (v : ℤ) : GlslDialect :=
  if v < 130 then .glsl120
  else if v = 440 then .glsl410core
  else if v = 300 then .glsl300es
  else .glsl130

/-- Create one shader of `type` from the selected sources and compile it. -/
def compileOverlayShader (gl : GLContext) (type : ℕ) (m : Machine) :
    Except Fault (ℕ × Machine) := do
  let (sh, m) ← m.gen gl GLState.shaderNames (.createShader type)
  let m ← m.call gl (.shaderSource sh (shaderDialect glslVersion) type)
  let m ← m.call gl (.compileShader sh)
  return (sh, m)

/-- `gui_create`: the overlay's shaders, program, buffers and font texture; the texture,
`ARRAY_BUFFER` and vertex-array bindings are read first and bound again at the end. -/
def guiCreate (gl : GLContext) (atlas : FontAtlas) (m : Machine) :
    Except Fault (Bool × Machine) := do
  let lastTexture := m.gl.textureBinding2D m.gl.activeTexture
  let lastArrayBuffer := m.gl.arrayBufferBinding
  let lastVertexArray := m.gl.vertexArrayBinding
  let (vert, m) ← compileOverlayShader gl GL_VERTEX_SHADER m
  let m := { m with globals.gVertHandle := vert }
  let (frag, m) ← compileOverlayShader gl GL_FRAGMENT_SHADER m
  let m := { m with globals.gFragHandle := frag }
  let (prog, m) ← m.gen gl GLState.shaderNames .createProgram
  let m := { m with globals.gShaderHandle := prog }
  let m ← m.call gl (.attachShader prog vert)
  let m ← m.call gl (.attachShader prog frag)
  let m ← m.call gl (.linkProgram prog)
  let m := { m with globals.gAttribLocationTex := gl.uniformLocation prog "Texture",
                    globals.gAttribLocationProjMtx := gl.uniformLocation prog "ProjMtx",
                    globals.gAttribLocationPosition := gl.attribLocation prog "Position",
                    globals.gAttribLocationUV := gl.attribLocation prog "UV",
                    globals.gAttribLocationColor := gl.attribLocation prog "Color" }
  let (vbo, m) ← m.gen gl GLState.buffers .genBuffer
  let m := { m with globals.gVboHandle := vbo }
  let (elements, m) ← m.gen gl GLState.buffers .genBuffer
  let m := { m with globals.gElementsHandle := elements }
  let (_, m) ← createFontsTexture gl atlas m
  let m ← m.call gl (.bindTexture lastTexture)
  let m ← m.call gl (.bindBuffer .array lastArrayBuffer)
  let m ← m.call gl (.bindVertexArray lastVertexArray)
  return (true, m)

/-! ### `gl_vao_*` -/

/-- `gl_vao_init(vao, gl, stride, entries, num_entries)`. -/
def glVaoInit (gl : GLContext) (atlas : FontAtlas) (vao : GlVao) (stride : ℤ)
    (entries : List RaRenderpassInput) (m : Machine) : Except Fault (GlVao × Machine) := do
  let m ← m.check (vao.vao = 0)
  let m ← m.check (vao.buffer = 0)
  let vao : GlVao := { gl := some gl, stride, entries }
  let (buffer, m) ← m.gen gl GLState.buffers .genBuffer
  let vao := { vao with buffer }
  let (vao, m) ← if gl.vertexArrayObjects then do
      let m ← m.call gl (.bindBuffer .array vao.buffer)
      let (name, m) ← m.gen gl GLState.vertexArrayNames .genVertexArray
      let vao := { vao with vao := name }
      let m ← m.call gl (.bindVertexArray vao.vao)
      let m ← glVaoEnableAttribs gl vao.stride vao.entries 0 m
      let m ← m.call gl (.bindVertexArray 0)
      let m ← m.call gl (.bindBuffer .array 0)
      pure (vao, m)
    else pure (vao, m)
  let (_, m) ← guiCreate gl atlas m
  return (vao, m)

/-- `gl_vao_uninit(vao)`: a no-op on a struct whose `gl` is `NULL`. -/
def glVaoUninit (vao : GlVao) (m : Machine) : Except Fault (GlVao × Machine) :=
  match vao.gl with
  | none => pure (vao, m)
  | some gl => do
    let m ← if gl.vertexArrayObjects then m.call gl (.deleteVertexArray vao.vao) else pure m
    let m ← m.call gl (.deleteBuffer vao.buffer)
    return ({}, m)

/-- `gl_vao_bind(vao)`. -/
def glVaoBind (gl : GLContext) (vao : GlVao) (m : Machine) : Except Fault Machine :=
  if gl.vertexArrayObjects then m.call gl (.bindVertexArray vao.vao)
  else do
    let m ← m.call gl (.bindBuffer .array vao.buffer)
    let m ← glVaoEnableAttribs gl vao.stride vao.entries 0 m
    m.call gl (.bindBuffer .array 0)

/-- The `DisableVertexAttribArray` loop of `gl_vao_unbind`, from index `n` on. -/
def disableAttribs (gl : GLContext) : List RaRenderpassInput → ℕ → Machine → Except Fault Machine
  | [], _, m => pure m
  | _ :: es, n, m => do
    let m ← m.call gl (.disableVertexAttribArray n)
    disableAttribs gl es (n + 1) m

/-- `gl_vao_unbind(vao)`. -/
def glVaoUnbind (gl : GLContext) (vao : GlVao) (m : Machine) : Except Fault Machine :=
  if gl.vertexArrayObjects then m.call gl (.bindVertexArray 0)
  else disableAttribs gl vao.entries 0 m

/-! ### What the device-object code leaves of the context -/

theorem attribFormat_of_ne_other {t : RaVartype} (h : t ≠ .other) : ∃ p, attribFormat t = pure p := by
  cases t <;> simp_all [attribFormat]

/-- With entries `gl_vao_enable_attribs` accepts, the loop returns, changes no global, and
changes only the bound vertex array. -/
theorem glVaoEnableAttribs_gl (gl : GLContext) (stride : ℤ) :
    ∀ (entries : List RaRenderpassInput) (n : ℕ) (m : Machine),
      (∀ e ∈ entries, e.type ≠ .other ∧ e.dimM = 1) →
      ∃ m', glVaoEnableAttribs gl stride entries n m = pure m' ∧ m'.globals = m.globals ∧
        ∃ f, m'.gl = m.gl.modifyBoundVertexArray f
  | [], _, m, _ => ⟨m, rfl, rfl, fun v => v, by simp⟩
  | e :: es, n, m, hent => by
    obtain ⟨hty, hdim⟩ := hent e (List.mem_cons_self e es)
    obtain ⟨p, hp⟩ := attribFormat_of_ne_other hty
    simp only [glVaoEnableAttribs, hp, pure_bind, Machine.check, hdim, decide_True, if_true,
      Machine.call_of_needs, GLCall.needsVertexArrays]
    obtain ⟨m', hrun, hg, f, hgl⟩ := glVaoEnableAttribs_gl gl stride es (n + 1) _
      fun e' he' => hent e' (List.mem_cons_of_mem e he')
    refine ⟨m', hrun, hg, ?_⟩
    rw [hgl]
    simp only [Machine.issue_gl, GLCall.exec, GLState.modifyBoundVertexArray_comp]
    exact ⟨_, rfl⟩

/-- `create_fonts_texture` makes one texture, records its name in `g_FontTexture` and
`TexID`, and leaves the context as it was but for that texture and
`UNPACK_ROW_LENGTH = 0`; the texture binding it changes is bound again. -/
theorem createFontsTexture_gl (gl : GLContext) (atlas : FontAtlas) (m : Machine) :
    ∃ m', createFontsTexture gl atlas m = pure (true, m') ∧
      m'.gl = { m.gl with textures := gl.genName m.gl.textures :: m.gl.textures,
                          unpackRowLength := 0 } ∧
      m'.globals = { m.globals with gFontTexture := gl.genName m.gl.textures,
                                    fontsTexID := gl.genName m.gl.textures } := by
  simp only [createFontsTexture, Machine.gen, Machine.call_of_needs, GLCall.needsVertexArrays,
    map_pure, pure_bind]
  exact ⟨_, rfl, by simp [GLCall.exec], rfl⟩

/-- One overlay shader: a new shader name, and nothing else changed. -/
theorem compileOverlayShader_gl (gl : GLContext) (type : ℕ) (m : Machine) :
    ∃ m', compileOverlayShader gl type m = pure (gl.genName m.gl.shaderNames, m') ∧
      m'.gl = { m.gl with shaders := gl.genName m.gl.shaderNames :: m.gl.shaders } ∧
      m'.globals = m.globals := by
  simp only [compileOverlayShader, Machine.gen, Machine.call_of_needs, GLCall.needsVertexArrays,
    map_pure, pure_bind]
  exact ⟨_, rfl, rfl, rfl⟩

/-- On a context with vertex-array objects `gui_create` returns, and the context gains the
overlay's two shaders, its program, its two buffers (with empty stores) and its font
texture, all named in the globals, with `UNPACK_ROW_LENGTH = 0` and nothing else changed.
The two buffers are new names. -/
theorem guiCreate_gl (gl : GLContext) (hvao : gl.vertexArrayObjects = true) (atlas : FontAtlas)
    (m : Machine) :
    ∃ m', guiCreate gl atlas m = pure (true, m') ∧
      m'.gl = { m.gl with
        shaders := m'.globals.gFragHandle :: m'.globals.gVertHandle :: m.gl.shaders
        programs := m'.globals.gShaderHandle :: m.gl.programs
        buffers := m'.globals.gElementsHandle :: m'.globals.gVboHandle :: m.gl.buffers
        bufferData := Function.update (Function.update m.gl.bufferData m'.globals.gVboHandle
          ⟨0, 0⟩) m'.globals.gElementsHandle ⟨0, 0⟩
        textures := m'.globals.gFontTexture :: m.gl.textures
        unpackRowLength := 0 } ∧
      m'.globals.gVboHandle ∉ m.gl.buffers ∧
      m'.globals.gElementsHandle ∉ m'.globals.gVboHandle :: m.gl.buffers := by
  obtain ⟨m1, h1, hgl1, hg1⟩ := compileOverlayShader_gl gl GL_VERTEX_SHADER m
  simp only [guiCreate, h1, pure_bind]
  obtain ⟨m2, h2, hgl2, hg2⟩ := compileOverlayShader_gl gl GL_FRAGMENT_SHADER _
  rw [h2]
  simp only [pure_bind, Machine.gen, Machine.call_of_vertexArrayObjects hvao, map_pure]
  obtain ⟨m3, h3, hgl3, hg3⟩ := createFontsTexture_gl gl atlas _
  rw [h3]
  simp only [pure_bind]
  refine ⟨_, rfl, ?_, ?_, ?_⟩
  · simp [GLCall.exec, hgl1, hgl2, hgl3, hg1, hg2, hg3]
  · simpa [GLCall.exec, hgl1, hgl2, hg1, hg2, hg3] using gl.genName_fresh m.gl.buffers
  · simpa [GLCall.exec, hgl1, hgl2, hg1, hg2, hg3] using
      gl.genName_fresh (gl.genName m.gl.buffers :: m.gl.buffers)

/-- On a context with vertex-array objects, `gl_vao_init` of a zeroed struct with entries
it accepts returns the struct filled in with a new buffer and a new vertex array.  The
context gains these two, with the attribute arrays set in the vertex array, and the
objects of `gui_create`; `ARRAY_BUFFER` and the vertex-array binding are left at `0`.
The two buffers of `gui_create` are not the struct's buffer. -/
theorem glVaoInit_gl (gl : GLContext) (hvao : gl.vertexArrayObjects = true) (atlas : FontAtlas)
    (vao : GlVao) (stride : ℤ) (entries : List RaRenderpassInput) (m : Machine)
    (hzero : vao.vao = 0 ∧ vao.buffer = 0)
    (hent : ∀ e ∈ entries, e.type ≠ .other ∧ e.dimM = 1) :
    ∃ vao' m', glVaoInit gl atlas vao stride entries m = pure (vao', m') ∧
      vao'.gl = some gl ∧ vao'.stride = stride ∧ vao'.entries = entries ∧
      vao'.vao ≠ 0 ∧ vao'.buffer ≠ 0 ∧
      m'.globals.gVboHandle ≠ vao'.buffer ∧ m'.globals.gElementsHandle ≠ vao'.buffer ∧
      ∃ v, m'.gl = { m.gl with
        arrayBufferBinding := 0, vertexArrayBinding := 0
        vertexArrays := (vao'.vao, v) :: m.gl.vertexArrays
        shaders := m'.globals.gFragHandle :: m'.globals.gVertHandle :: m.gl.shaders
        programs := m'.globals.gShaderHandle :: m.gl.programs
        buffers := m'.globals.gElementsHandle :: m'.globals.gVboHandle :: vao'.buffer :: m.gl.buffers
        bufferData := Function.update (Function.update (Function.update m.gl.bufferData
          vao'.buffer ⟨0, 0⟩) m'.globals.gVboHandle ⟨0, 0⟩) m'.globals.gElementsHandle ⟨0, 0⟩
        textures := m'.globals.gFontTexture :: m.gl.textures
        unpackRowLength := 0 } := by
  have hpos : ∀ l, gl.genName l ≠ 0 := fun l => (gl.genName_pos l).ne'
  simp only [glVaoInit, Machine.check, hzero, decide_True, if_true, pure_bind, hvao, Machine.gen,
    Machine.call_of_vertexArrayObjects hvao, map_pure]
  obtain ⟨m1, h1, hg1, f, hgl1⟩ := glVaoEnableAttribs_gl gl stride entries 0 _ hent
  rw [h1]
  simp only [pure_bind, Machine.call_of_vertexArrayObjects hvao]
  obtain ⟨m2, h2, hgl2, hvbo, helem⟩ := guiCreate_gl gl hvao atlas _
  rw [h2]
  refine ⟨_, m2, rfl, rfl, rfl, rfl, hpos _, hpos _, fun h => hvbo ?_, fun h => helem ?_, f {}, ?_⟩
  · simp only [h, Machine.issue_gl, GLCall.exec, hgl1, GLState.modifyBoundVertexArray,
      List.mem_cons, true_or]
  · simp only [h, Machine.issue_gl, GLCall.exec, hgl1, GLState.modifyBoundVertexArray,
      List.mem_cons, true_or, or_true]
  · rw [hgl2]
    simp [hgl1, hg1, GLCall.exec, GLState.modifyBoundVertexArray, hpos]

/-- `gl_vao_init` followed by `gl_vao_uninit` deletes the struct's buffer and vertex array,
and nothing else: the two shaders, the program, the two buffers and the font texture of
`gui_create` stay alive, named only by the globals. -/
theorem glVaoInit_uninit_live (gl : GLContext) (hvao : gl.vertexArrayObjects = true)
    (atlas : FontAtlas) (vao : GlVao) (stride : ℤ) (entries : List RaRenderpassInput)
    (m : Machine) (hzero : vao.vao = 0 ∧ vao.buffer = 0)
    (hent : ∀ e ∈ entries, e.type ≠ .other ∧ e.dimM = 1) :
    ∃ vao' m' m'', glVaoInit gl atlas vao stride entries m = pure (vao', m') ∧
      glVaoUninit vao' m' = pure ({}, m'') ∧
      m''.gl.vertexArrayNames = m.gl.vertexArrayNames ∧
      m''.gl.buffers = m''.globals.gElementsHandle :: m''.globals.gVboHandle :: m.gl.buffers ∧
      m''.gl.textures = m''.globals.gFontTexture :: m.gl.textures ∧
      m''.gl.shaders = m''.globals.gFragHandle :: m''.globals.gVertHandle :: m.gl.shaders ∧
      m''.gl.programs = m''.globals.gShaderHandle :: m.gl.programs := by
  obtain ⟨vao', m', hrun, hvgl, -, -, hn, hb, hvbo, helem, v, hgl⟩ :=
    glVaoInit_gl gl hvao atlas vao stride entries m hzero hent
  refine ⟨vao', m', (m'.issue (.deleteVertexArray vao'.vao)).issue (.deleteBuffer vao'.buffer),
    hrun, ?_, ?_⟩
  · simp only [glVaoUninit, hvgl, hvao, if_true, Machine.call_of_vertexArrayObjects hvao,
      pure_bind]
  · simp [GLCall.exec, hgl, hn, hb, hvbo, helem, GLState.deleteVertexArrayName,
      GLState.deleteBufferName, GLState.vertexArrayNames, GLState.modifyBoundVertexArray]

/-- From a fresh context, `gl_vao_init` and then `gl_vao_uninit` of the same struct leave
buffers `3` and `2`, texture `1`, shaders `2` and `1` and program `3` alive. -/
theorem glVaoInit_uninit_leaks :
    (do
      let (vao, m) ← glVaoInit (GLContext.counting false 0 true) ⟨0, 512, 64⟩ {} 8
        [⟨.float, 2, 1, 0⟩] { gl := GLState.initial }
      glVaoUninit vao m).map (fun (r : GlVao × Machine) => (r.2.gl.buffers, r.2.gl.vertexArrayNames,
        r.2.gl.textures, r.2.gl.shaders, r.2.gl.programs)) =
      .ok ([3, 2], [], [1], [2, 1], [3]) := rfl

/-! ### Contexts without vertex-array objects -/

/-- On a context without vertex-array objects, `gl_vao_init` of a zeroed struct stops at
the unguarded `glBindVertexArray(last_vertex_array)` at the end of `gui_create`, whatever
the entries: every call before it has its entry point, and this one has none. -/
theorem glVaoInit_absent (gl : GLContext) (hvao : gl.vertexArrayObjects = false)
    (atlas : FontAtlas) (vao : GlVao) (stride : ℤ) (entries : List RaRenderpassInput)
    (m : Machine) (hzero : vao.vao = 0 ∧ vao.buffer = 0) :
    glVaoInit gl atlas vao stride entries m =
      throw (.absent (.bindVertexArray m.gl.vertexArrayBinding)) := by
  have habs : gl.provides (.bindVertexArray m.gl.vertexArrayBinding) = false := by
    simp [GLContext.provides, hvao, GLCall.needsVertexArrays]
  simp only [glVaoInit, Machine.check, hzero, decide_True, if_true, pure_bind, hvao,
    Bool.false_eq_true, if_false, guiCreate, compileOverlayShader, createFontsTexture,
    Machine.gen, Machine.call_of_needs, GLCall.needsVertexArrays, map_pure]
  simp [Machine.call_of_absent habs, GLCall.exec]
  rfl

/-- A desktop context without vertex-array objects: `gl_vao_init` of a zeroed struct on a
fresh context stops at `glBindVertexArray(0)`. -/
theorem glVaoInit_faults_without_vertexArrays :
    glVaoInit (GLContext.counting false 0 false) ⟨0, 512, 64⟩ {} 8 [⟨.float, 2, 1, 0⟩]
      { gl := GLState.initial } = throw (.absent (.bindVertexArray 0)) :=
  glVaoInit_absent _ rfl _ _ _ _ _ ⟨rfl, rfl⟩

end Mpv
