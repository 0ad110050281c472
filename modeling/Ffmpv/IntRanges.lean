/-
The `int` arithmetic of `gl_upload_tex` and `gl_read_fbo_contents`.

`glUploadTexInts` of `Ffmpv.Upload` lists the values of the `int` expressions
`gl_upload_tex` evaluates, in the order the code evaluates them; this file gives that list
in closed form, lists those of `gl_read_fbo_contents` likewise, and says when they all lie
in `[INT_MIN, INT_MAX]`.

* `glUploadTexInts_eq` — past the early return and the assertion, `gl_upload_tex` evaluates
  `y + h`, then `stride / bpp` or `bpp * w`, then `y + slice`, `stride * slice` and
  `y + slice` on each of its `h / slice` passes, and last the test `y + h + slice` that
  ends the loop;
* `glUploadTexInts_inRange_iff` — for `y ≥ 0` and `y + h ≤ INT_MAX` all of them fit an
  `int` exactly when `y + h + slice`, `stride * slice` and, without row lengths,
  `bpp * w` do;
* `glUploadTex_loop_test_overflows` — with `y = INT_MAX - 1` and `h = 1` the test that
  ends the loop computes `INT_MAX + 1`;
* `glReadFboContentsInts_inRange_iff` — the row offsets of `gl_read_fbo_contents` fit an
  `int` exactly when `(h - 1) * dst_stride` does (`dir = 1`) or `h * dst_stride` does
  (`dir = -1`).

Design notes: the additions, subtractions, multiplications and divisions are listed; the
remainders `get_alignment` takes lie in `[0, 8)`, and the comparisons compute nothing.
-/
import Ffmpv.Upload
import Ffmpv.Readback

namespace Mpv

/-! ### `gl_upload_tex` -/

/-- The loop run for `n` passes: pass `k` evaluates `y + (k + 1) * slice` twice and
`stride * slice` once, and the last test evaluates `y + (n + 1) * slice`. -/
theorem uploadSlicesInts_eq (stride slice yMax : ℤ) (hslice : 0 < slice) :
    ∀ (n fuel : ℕ) (y : ℤ), n < fuel → y + n * slice ≤ yMax → yMax < y + (n + 1) * slice →
      uploadSlicesInts stride slice yMax fuel y =
        ((List.range n).flatMap (fun (k : ℕ) =>
          [y + (k + 1) * slice, stride * slice, y + (k + 1) * slice]) ++
          [y + (n + 1) * slice], y + n * slice) := by
  intro n
  induction n with
  | zero =>
    intro fuel y hfuel _ hlt
    obtain ⟨fuel, rfl⟩ : ∃ f, fuel = f + 1 := ⟨fuel - 1, by omega⟩
    simp only [Nat.cast_zero, zero_add, one_mul] at hlt
    simp [uploadSlicesInts, show ¬y + slice ≤ yMax by omega]
  | succ n ih =>
    intro fuel y hfuel hle hlt
    obtain ⟨fuel, rfl⟩ : ∃ f, fuel = f + 1 := ⟨fuel - 1, by omega⟩
    have hn : 0 ≤ (n : ℤ) * slice := by positivity
    push_cast at hle hlt ⊢
    rw [uploadSlicesInts, if_pos (by linarith),
      ih fuel (y + slice) (by omega) (by linarith) (by linarith)]
    have e : ∀ k : ℤ, y + slice + (k + 1) * slice = y + (k + 1 + 1) * slice := fun k => by ring
    simp only [List.range_succ_eq_map, List.flatMap_cons, List.flatMap_map, Nat.cast_zero,
      Nat.cast_succ, zero_add, one_mul, List.cons_append, List.nil_append, List.append_assoc, e,
      Prod.mk.injEq, true_and]
    ring
section Upload

variable (glBytesPerPixel : ℕ → ℕ → ℤ)

/-- Past the early return and the assertion, the loop makes `h / slice` passes, `slice`
being `h` or `1`, ends at `y_max` with the test `y + h + slice`, and makes no remainder
call. -/
theorem glUploadTexInts_eq (gl : GLContext) (format type : ℕ) (stride y w h : ℤ)
    (hw : 0 < w) (hh : 0 < h) (hbpp : glBytesPerPixel format type ≠ 0) (hstride : 0 < stride) :
    let slice := if gl.rowLength then h
      else if stride ≠ glBytesPerPixel format type * w then 1 else h
    glUploadTexInts glBytesPerPixel gl format type stride y w h =
      (y + h) :: (if gl.rowLength then stride.tdiv (glBytesPerPixel format type)
        else glBytesPerPixel format type * w) ::
        ((List.range (h / slice).toNat).flatMap (fun (k : ℕ) =>
          [y + (k + 1) * slice, stride * slice, y + (k + 1) * slice]) ++ [y + h + slice]) := by
  simp only [glUploadTexInts, show ¬(w ≤ 0 ∨ h ≤ 0 ∨ glBytesPerPixel format type = 0 ∨ ¬0 < stride)
    by omega, if_false]
  have hs : (if gl.rowLength = true then h
      else if stride ≠ glBytesPerPixel format type * w then 1 else h) = 1 ∨
      (if gl.rowLength = true then h
      else if stride ≠ glBytesPerPixel format type * w then 1 else h) = h := by
    split_ifs <;> simp
  generalize (if gl.rowLength = true then h
    else if stride ≠ glBytesPerPixel format type * w then 1 else h) = S at hs ⊢
  obtain ⟨hS, hdiv⟩ : 0 < S ∧ h / S * S = h := by
    rcases hs with rfl | rfl <;> simp [Int.ediv_self hh.ne', hh]
  obtain ⟨n, hn⟩ : ∃ n : ℕ, h / S = n :=
    ⟨(h / S).toNat, (Int.toNat_of_nonneg (Int.ediv_nonneg hh.le hS.le)).symm⟩
  rw [hn] at hdiv
  have hle : (n : ℤ) ≤ h := by nlinarith
  rw [uploadSlicesInts_eq stride S (y + h) hS n (h.toNat + 1) y (by omega) (by rw [hdiv])
    (by linarith), hn]
  simp only [hdiv, lt_irrefl, if_false, List.append_nil, Int.toNat_natCast, add_mul, one_mul,
    ← add_assoc]

/-- **`int` range of an upload.**  For `y ≥ 0` and `y + h ≤ INT_MAX`, past the early return
and the assertion, every `int` value `gl_upload_tex` evaluates fits an `int` exactly when
the test `y + h + slice` that ends the loop, `stride * slice` and, without row lengths,
`bpp * w` do. -/
theorem glUploadTexInts_inRange_iff (gl : GLContext) (format type : ℕ) (stride y w h : ℤ)
    (hw : 0 < w) (hh : 0 < h) (hbpp : 0 < glBytesPerPixel format type) (hstride : 0 < stride)
    (hy : 0 ≤ y) (hyh : y + h ≤ INT_MAX) :
    let slice := if gl.rowLength then h
      else if stride ≠ glBytesPerPixel format type * w then 1 else h
    (∀ v ∈ glUploadTexInts glBytesPerPixel gl format type stride y w h, InIntRange v) ↔
      y + h + slice ≤ INT_MAX ∧ stride * slice ≤ INT_MAX ∧
        (gl.rowLength = false → glBytesPerPixel format type * w ≤ INT_MAX) := by
  dsimp only
  have hs : (if gl.rowLength = true then h
      else if stride ≠ glBytesPerPixel format type * w then 1 else h) = 1 ∨
      (if gl.rowLength = true then h
      else if stride ≠ glBytesPerPixel format type * w then 1 else h) = h := by
    split_ifs <;> simp
  rw [glUploadTexInts_eq glBytesPerPixel gl format type stride y w h hw hh hbpp.ne' hstride]
  generalize (if gl.rowLength = true then h
    else if stride ≠ glBytesPerPixel format type * w then 1 else h) = slice at hs ⊢
  obtain ⟨hslice, hpos, hdiv⟩ : 0 < slice ∧ 0 < h / slice ∧ h / slice * slice = h := by
    rcases hs with rfl | rfl <;> simp [Int.ediv_self hh.ne', hh]
  have hq : 0 ≤ stride.tdiv (glBytesPerPixel format type) ∧
      stride.tdiv (glBytesPerPixel format type) ≤ stride := by
    rw [Int.tdiv_eq_ediv hstride.le hbpp.le]
    exact ⟨Int.ediv_nonneg hstride.le hbpp.le, Int.ediv_le_self _ hstride.le⟩
  have hbw : 0 < glBytesPerPixel format type * w := mul_pos hbpp hw
  have hst : 0 < stride * slice ∧ stride ≤ stride * slice :=
    ⟨mul_pos hstride hslice, le_mul_of_one_le_right hstride.le hslice⟩
  simp only [InIntRange, INT_MIN, INT_MAX, List.forall_mem_cons, List.forall_mem_append,
    List.forall_mem_flatMap, List.mem_range, List.not_mem_nil, false_implies, forall_const,
    and_true] at hyh ⊢
  constructor
  · rintro ⟨-, hfirst, hpass, hlast⟩
    refine ⟨hlast.2, (hpass 0 (by omega)).2.1.2, fun hrl => ?_⟩
    simpa [hrl] using hfirst.2
  · rintro ⟨hlast, hmax, hbw'⟩
    refine ⟨by omega, ?_, fun k hk => ?_, by omega⟩
    · cases hrl : gl.rowLength <;> simp only [hrl, if_true, if_false, Bool.false_eq_true] <;>
        [exact ⟨by omega, hbw' hrl⟩; omega]
    · -- pass `k` stays within the rows: `(k + 1) * slice ≤ h`
      have hrow : ((k : ℤ) + 1) * slice ≤ h :=
        (mul_le_mul_of_nonneg_right (by omega) hslice.le).trans_eq hdiv
      have : 0 < ((k : ℤ) + 1) * slice := by positivity
      omega

/-- A `4 × 4` upload at row `0` with a tight stride of `16` bytes. -/
theorem glUploadTexInts_inRange_iff_tight :
    (∀ v ∈ glUploadTexInts (fun _ _ => 4) (GLContext.counting false 0 true) GL_RGBA
        GL_UNSIGNED_BYTE 16 0 4 4, InIntRange v) ↔
      0 + 4 + 4 ≤ INT_MAX ∧ 16 * 4 ≤ INT_MAX ∧ (false = false → 4 * 4 ≤ INT_MAX) :=
  glUploadTexInts_inRange_iff _ _ _ _ _ _ _ _ (by decide) (by decide) (by decide) (by decide)
    (by decide) (by decide)

end Upload

/-- `y = INT_MAX - 1`, `h = 1` and `w = bpp = stride = 1`, without row lengths: the one
slice is uploaded, `y` becomes `INT_MAX`, and the test `y + slice <= y_max` that ends the
loop computes `INT_MAX + 1`. -/
theorem glUploadTex_loop_test_overflows :
    INT_MAX + 1 ∈
      glUploadTexInts (fun _ _ => 1) (GLContext.counting false 0 true) 0 0 1 (INT_MAX - 1) 1 1 := by
  decide

/-! ### `gl_read_fbo_contents` -/

/-- The `int` values the row loop evaluates for `rows`: for row `y`, `dir * y`,
`y1 + dir * y` and `(y1 + dir * y) * dst_stride` for the destination, and `y + 1` for
`y++`. -/
def readRowsInts (dstStride y1 dir : ℤ) (rows : List ℕ) : List ℤ :=
  rows.flatMap fun y => [dir * y, y1 + dir * y, (y1 + dir * y) * dstStride, (y : ℤ) + 1]

/-- The `int` values `gl_read_fbo_contents` evaluates: none when the assertion fails or the
front buffer is refused on GLES, and otherwise those of the row loop. -/
def glReadFboContentsInts (gl : GLContext) (fbo : ℕ) (dir h dstStride : ℤ) : List ℤ :=
  if ¬(dir = 1 ∨ dir = -1) then [] else
  if fbo = 0 ∧ gl.es ≠ 0 then [] else
  readRowsInts dstStride (if dir > 0 then 0 else h) dir (List.range h.toNat)

/-- **`int` range of a readback.**  For `1 ≤ h ≤ INT_MAX` and `dst_stride > 0`, every `int`
value an accepted `gl_read_fbo_contents` evaluates fits an `int` exactly when the largest
row offset does: `(h - 1) * dst_stride` for `dir = 1`, `h * dst_stride` for `dir = -1`. -/
theorem glReadFboContentsInts_inRange_iff (gl : GLContext) (fbo : ℕ) (dir h dstStride : ℤ)
    (hdir : dir = 1 ∨ dir = -1) (hfbo : ¬(fbo = 0 ∧ gl.es ≠ 0)) (hh : 1 ≤ h)
    (hhmax : h ≤ INT_MAX) (hstride : 0 < dstStride) :
    (∀ v ∈ glReadFboContentsInts gl fbo dir h dstStride, InIntRange v) ↔
      (if dir = 1 then h - 1 else h) * dstStride ≤ INT_MAX := by
  simp only [glReadFboContentsInts, hdir, not_true_eq_false, if_false, hfbo, readRowsInts,
    InIntRange, INT_MIN, INT_MAX, List.forall_mem_flatMap, List.mem_range,
    List.forall_mem_cons, List.not_mem_nil, false_implies, forall_const, and_true] at hhmax ⊢
  obtain ⟨n, rfl⟩ : ∃ n : ℕ, h = n + 1 := ⟨(h - 1).toNat, by omega⟩
  simp only [Int.toNat_natCast_add_one, Nat.lt_succ_iff]
  rcases hdir with rfl | rfl
  · -- top to bottom: the last row is the farthest, at `(h - 1) * dst_stride`
    simp only [if_true, gt_iff_lt, zero_lt_one, one_mul, zero_add, add_sub_cancel_right]
    constructor
    · intro hrows
      exact (hrows n le_rfl).2.2.1.2
    · intro hmax y hy
      have : (y : ℤ) * dstStride ≤ n * dstStride :=
        mul_le_mul_of_nonneg_right (by exact_mod_cast hy) hstride.le
      have : 0 ≤ (y : ℤ) * dstStride := by positivity
      omega
  · -- flipped: row `0` is the farthest, at `h * dst_stride`
    simp only [show (-1 : ℤ) ≠ 1 by decide, if_false, gt_iff_lt, Left.neg_pos_iff,
      Int.reduceLT, neg_mul, one_mul, ← sub_eq_add_neg]
    constructor
    · intro hrows
      simpa using (hrows 0 (Nat.zero_le n)).2.2.1.2
    · intro hmax y hy
      have : ((n : ℤ) + 1 - y) * dstStride ≤ (n + 1) * dstStride :=
        mul_le_mul_of_nonneg_right (by omega) hstride.le
      have : 0 ≤ ((n : ℤ) + 1 - y) * dstStride := mul_nonneg (by omega) hstride.le
      omega

/-- A flipped readback of `65536` rows, `32768` bytes apart: row `0` goes to offset `2^31`. -/
example : ¬∀ v ∈ glReadFboContentsInts (GLContext.counting false 0 true) 1 (-1) 65536 32768,
    InIntRange v := by
  rw [glReadFboContentsInts_inRange_iff _ _ _ _ _ (.inr rfl) (by decide) (by decide)
    (by decide) (by decide)]
  decide

end Mpv
