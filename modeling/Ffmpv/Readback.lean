/-
Reading a framebuffer back: `gl_read_fbo_contents`.

The function refuses the front buffer on GLES, and otherwise reads the `h` rows one
`glReadPixels` at a time, so that the rows can be stored in either order and at any
destination stride.  Row `y` goes to `dst + (y1 + dir * y) * dst_stride`, with
`y1 = 0` when `dir = 1` and `y1 = h` when `dir = -1`.

* `glReadFboContents_eq` — every accepted call issues exactly `h` one-row reads, row
  `y` into `dst + (y1 + dir * y) * dst_stride`, and leaves the context with
  `PACK_ALIGNMENT = 4` and framebuffer `0`;
* `glReadFboContents_flipped_rows` — with `dir = -1` row `y` goes to
  `dst + (h - y) * dst_stride`: row 0 starts at `dst + h * dst_stride`, one past the
  last row of the destination, and destination row `0` is never written.
-/
import Ffmpv.GL.Call

namespace Mpv

/-- The counted loop of `gl_read_fbo_contents`: one `glReadPixels` per row in `rows`. -/
def readRows (gl : GLContext) (format type : ℕ) (w dst dstStride y1 dir : ℤ) :
    List ℕ → Machine → Except Fault Machine
  | [], m => pure m
  | y :: rows, m => do
    let m ← m.call gl (.readPixels 0 y w 1 format type (dst + (y1 + dir * y) * dstStride))
    readRows gl format type w dst dstStride y1 dir rows m

/-- `gl_read_fbo_contents`: read the `w × h` pixels of framebuffer `fbo` into `dst`,
rows `dst_stride` bytes apart, top to bottom when `dir = 1` and flipped when
`dir = -1`. -/
def glReadFboContents (gl : GLContext) (fbo : ℕ) (dir : ℤ) (format type : ℕ)
    (w h dst dstStride : ℤ) (m : Machine) : Except Fault (Bool × Machine) := do
  let m ← m.check (dir = 1 ∨ dir = -1)
  if fbo = 0 ∧ gl.es ≠ 0 then return (false, m)
  let m ← m.call gl (.bindFramebuffer fbo)
  let obj := if fbo ≠ 0 then GL_COLOR_ATTACHMENT0 else GL_FRONT
  let m ← m.call gl (.pixelStorei .packAlignment 1)
  let m ← m.call gl (.readBuffer obj)
  let y1 := if dir > 0 then 0 else h
  let m ← readRows gl format type w dst dstStride y1 dir (List.range h.toNat) m
  let m ← m.call gl (.pixelStorei .packAlignment 4)
  let m ← m.call gl (.bindFramebuffer 0)
  return (true, m)

/-- The `glReadPixels` calls of a trace, as `(x, y, width, height, pixels)`. -/
def readPixelsCalls (t : List (GLState × GLCall)) : List (ℤ × ℤ × ℤ × ℤ × ℤ) :=
  t.filterMap fun e => match e.2 with
    | .readPixels x y w h _ _ p => some (x, y, w, h, p)
    | _ => none

@[simp] theorem readPixelsCalls_append (t t' : List (GLState × GLCall)) :
    readPixelsCalls (t ++ t') = readPixelsCalls t ++ readPixelsCalls t' := by
  simp [readPixelsCalls]

/-- The loop issues one read per row, all in the state it started in. -/
theorem readRows_eq (gl : GLContext) (format type : ℕ) (w dst dstStride y1 dir : ℤ) :
    ∀ (rows : List ℕ) (m : Machine), readRows gl format type w dst dstStride y1 dir rows m =
      pure { m with trace := m.trace ++ rows.map fun y =>
        (m.gl, .readPixels 0 y w 1 format type (dst + (y1 + dir * y) * dstStride)) }
  | [], m => by simp [readRows]
  | y :: rows, m => by
    rw [readRows, Machine.call_of_provides (GLContext.provides_of_needs (by rfl)), pure_bind,
      readRows_eq gl format type w dst dstStride y1 dir rows]
    simp [GLCall.exec]

/-- Every call past the assertion and the GLES refusal: `h` one-row reads, row `y` into
`dst + (y1 + dir * y) * dst_stride`, and the context left with `PACK_ALIGNMENT = 4` and
framebuffer `0`. -/
theorem glReadFboContents_eq (gl : GLContext) (fbo : ℕ) (dir : ℤ) (format type : ℕ)
    (w h dst dstStride : ℤ) (m : Machine) (hdir : dir = 1 ∨ dir = -1)
    (hfbo : ¬(fbo = 0 ∧ gl.es ≠ 0)) :
    ∃ m', glReadFboContents gl fbo dir format type w h dst dstStride m = pure (true, m') ∧
      m'.gl = { m.gl with packAlignment := 4, framebufferBinding := 0 } ∧
      m'.globals = m.globals ∧
      ∃ t, m'.trace = m.trace ++ t ∧
        readPixelsCalls t = (List.range h.toNat).map fun (y : ℕ) =>
          ((0 : ℤ), (y : ℤ), w, (1 : ℤ),
            dst + ((if dir > 0 then 0 else h) + dir * y) * dstStride) := by
  simp only [glReadFboContents, Machine.check, hdir, decide_True, if_true, pure_bind, hfbo,
    if_false, Machine.call_of_needs, GLCall.needsVertexArrays, readRows_eq]
  refine ⟨_, rfl, rfl, rfl, ?_⟩
  simp only [Machine.issue_trace, List.append_assoc]
  refine ⟨_, rfl, ?_⟩
  simp only [readPixelsCalls, List.filterMap_append, List.filterMap_cons, List.filterMap_nil,
    List.filterMap_map, List.nil_append, List.append_nil]
  exact congrFun (List.filterMap_eq_map _) _

/-- Every call with `dir = ±1` returns, changes no global, and leaves the context as it
was (the GLES front-buffer refusal) or with `PACK_ALIGNMENT = 4` and framebuffer `0`. -/
theorem glReadFboContents_gl (gl : GLContext) (fbo : ℕ) (dir : ℤ) (format type : ℕ)
    (w h dst dstStride : ℤ) (m : Machine) (hdir : dir = 1 ∨ dir = -1) :
    ∃ ok m', glReadFboContents gl fbo dir format type w h dst dstStride m = pure (ok, m') ∧
      m'.globals = m.globals ∧
      (m'.gl = m.gl ∨ m'.gl = { m.gl with packAlignment := 4, framebufferBinding := 0 }) := by
  by_cases hfbo : fbo = 0 ∧ gl.es ≠ 0
  · exact ⟨false, m, by simp [glReadFboContents, Machine.check, hdir, hfbo], rfl, .inl rfl⟩
  obtain ⟨m', hrun, hgl, hg, -⟩ :=
    glReadFboContents_eq gl fbo dir format type w h dst dstStride m hdir hfbo
  exact ⟨true, m', hrun, hg, .inr hgl⟩

/-- **The flipped read is off by one.**  With `dir = -1` row `y` is read into
`dst + (h - y) * dst_stride`: row `0` lands at `dst + h * dst_stride`, one row past an
`h`-row destination, and no read goes to `dst`. -/
theorem glReadFboContents_flipped_rows (gl : GLContext) (fbo : ℕ) (format type : ℕ)
    (w h dst dstStride : ℤ) (m : Machine) (hfbo : ¬(fbo = 0 ∧ gl.es ≠ 0)) :
    ∃ m', glReadFboContents gl fbo (-1) format type w h dst dstStride m = pure (true, m') ∧
      ∃ t, m'.trace = m.trace ++ t ∧
        (readPixelsCalls t).map (fun c => c.2.2.2.2) =
          (List.range h.toNat).map fun (y : ℕ) => dst + (h - y) * dstStride := by
  obtain ⟨m', hrun, -, -, t, ht, hcalls⟩ :=
    glReadFboContents_eq gl fbo (-1) format type w h dst dstStride m (.inr rfl) hfbo
  refine ⟨m', hrun, t, ht, ?_⟩
  rw [hcalls, List.map_map]
  exact List.map_congr_left fun y _ => by
    simp only [Function.comp_apply, show ¬((-1 : ℤ) > 0) by norm_num, if_false]
    ring

/-- At `fbo = 1`, `dir = -1`, one row of one pixel and `dst_stride = 4`, the only read
goes to `dst + 4`, past the 4-byte destination. -/
theorem glReadFboContents_flipped_overrun :
    (glReadFboContents (GLContext.counting false 0 true) 1 (-1) GL_RGBA GL_UNSIGNED_BYTE 1 1 0 4
        { gl := GLState.initial }).map (fun r => readPixelsCalls r.2.trace) =
      .ok [(0, 0, 1, 1, 4)] := rfl

end Mpv
