/-
The codec timebase: `mp_get_codec_timebase`.

The function starts from the demuxer's native timebase, else from the inverse of the
frame rate, else from `AV_TIME_BASE_Q`; a timebase coarser than a millisecond has its
denominator multiplied by `⌈1000 t⌉`, and the result is reduced into `int` range.

* `startTimebase_pos` — the starting timebase `t` has both terms positive;
* `startTimebase_fits_of_fps` — every frame-rate timebase and `AV_TIME_BASE_Q` have
  `1000 · t.num + t.den ≤ INT_MAX`;
* `mpGetCodecTimebase_eq` — when `1000 · t.num + t.den ≤ INT_MAX`, no `int` overflows and
  the result is `t / ⌈1000 t⌉` for `t > 1/1000`, `t` otherwise, never above `1/1000`;
* `mpGetCodecTimebase_overflows` — the native timebase `2000000/1000000001` makes
  `r.num + r.den` overflow.

Design notes: an `int` expression is `cInt v`, `none` when `v` is out of range, which is
undefined behaviour in C, and `none` is the result of the whole call.  `av_reduce` is
FFmpeg's; it enters as `AvReduce`, which carries the part of its contract used here.
`av_q2d(tb) > 0.001` is compared exactly: for terms of 32 bits `num/den` and `1/1000`
differ, when they do, by more than the rounding of either double.  `av_d2q(fps, 1000000)`
is the field `fps`.
-/
import Mathlib.Data.Int.GCD
import Mathlib.Data.Rat.Floor
import Mathlib.Tactic.FieldSimp
import Ffmpv.AvCommon.Options

namespace Mpv

/-- The value of an `int` expression: `none` when it overflows. -/
def cInt (v : ℤ) : Option ℤ := if INT_MIN ≤ v ∧ v ≤ INT_MAX then some v else none

/-- `a / b` on `int`: `none` on division by zero and on `INT_MIN / -1`. -/
def cDiv (a b : ℤ) : Option ℤ := if b = 0 ∨ (a = INT_MIN ∧ b = -1) then none else cInt (a.tdiv b)

structure AVRational where
  num : ℤ
  den : ℤ
  deriving DecidableEq, Repr

/-- `AV_TIME_BASE_Q`, `1/AV_TIME_BASE`. -/
def AV_TIME_BASE_Q : AVRational := ⟨1, 1000000⟩

/-- The fields of `struct mp_codec_params` the function reads. -/
structure MpCodecParams where
  nativeTbNum : ℤ
  nativeTbDen : ℤ
  reliableFps : Bool
  /-- `av_d2q(fps, 1000000)`, the only use of `fps`. -/
  fps : AVRational

/-- `av_reduce(&num, &den, num, den, max)` of FFmpeg, by the part of its contract used here:
a fraction of positive terms whose lowest terms fit within `max` comes back in lowest
terms. -/
structure AvReduce where
  run : ℤ → ℤ → ℤ → ℤ × ℤ
  run_exact : ∀ num den max, 0 < num → 0 < den → num / Int.gcd num den ≤ max →
    den / Int.gcd num den ≤ max → run num den max = (num / Int.gcd num den, den / Int.gcd num den)

/-- The reduction to lowest terms, which meets the contract for every `max`. -/
def AvReduce.lowestTerms : AvReduce where
  run num den _ := (num / Int.gcd num den, den / Int.gcd num den)
  run_exact _ _ _ _ _ _ _ := rfl

/-- `av_inv_q(q)`. -/
def avInvQ (q : AVRational) : AVRational := ⟨q.den, q.num⟩

/-- `av_q2d(q)`, exactly. -/
def avQ2d (q : AVRational) : ℚ := q.num / q.den

/-- `av_mul_q(b, c)`: the product through `av_reduce` with `max = INT_MAX`. -/
def avMulQ (red : AvReduce) (b c : AVRational) : AVRational :=
  let r := red.run (b.num * c.num) (b.den * c.den) INT_MAX
  ⟨r.1, r.2⟩

/-- `av_div_q(b, c)`. -/
def avDivQ (red : AvReduce) (b c : AVRational) : AVRational := avMulQ red b (avInvQ c)

/-- The first block of `mp_get_codec_timebase`: the native timebase, else the inverse of
the frame rate when it is reliable, else `AV_TIME_BASE_Q`. -/
def startTimebase (c : MpCodecParams) : AVRational :=
  let tb : AVRational := ⟨c.nativeTbNum, c.nativeTbDen⟩
  if tb.num < 1 ∨ tb.den < 1 then
    let tb := if c.reliableFps then avInvQ c.fps else tb
    if tb.num < 1 ∨ tb.den < 1 then AV_TIME_BASE_Q else tb
  else tb

/-- The refinement: a timebase coarser than a millisecond gets
`tb.den *= (r.num + r.den - 1) / r.den` with `r = tb / (1/1000)`. -/
def refineTimebase (red : AvReduce) (tb : AVRational) : Option AVRational :=
  if avQ2d tb > 1 / 1000 then do
    let r := avDivQ red tb ⟨1, 1000⟩
    let s ← cInt (r.num + r.den)
    let s ← cInt (s - 1)
    let q ← cDiv s r.den
    let den ← cInt (tb.den * q)
    return ⟨tb.num, den⟩
  else some tb

/-- `mp_get_codec_timebase(c)`; `none` when an `int` expression overflows. -/
def mpGetCodecTimebase (red : AvReduce) (c : MpCodecParams) : Option AVRational := do
  let tb ← refineTimebase red (startTimebase c)
  let r := red.run tb.num tb.den INT_MAX
  let tb : AVRational := ⟨r.1, r.2⟩
  return if tb.num < 1 ∨ tb.den < 1 then AV_TIME_BASE_Q else tb

/-! ### A native timebase that overflows -/

theorem startTimebase_of_native (c : MpCodecParams) (hnum : 1 ≤ c.nativeTbNum)
    (hden : 1 ≤ c.nativeTbDen) : startTimebase c = ⟨c.nativeTbNum, c.nativeTbDen⟩ := by
  simp only [startTimebase]
  rw [if_neg (by omega)]

/-- At the native timebase `2000000/1000000001` (about `1/500` s) the fraction
`r = 2000000000/1000000001` is already in lowest terms and `r.num + r.den` exceeds
`INT_MAX`, whatever `av_reduce` does beyond its contract. -/
theorem mpGetCodecTimebase_overflows (red : AvReduce) :
    mpGetCodecTimebase red ⟨2000000, 1000000001, false, ⟨0, 0⟩⟩ = none := by
  have hr : red.run (2000000 * 1000) (1000000001 * 1) INT_MAX = (2000000000, 1000000001) := by
    rw [red.run_exact _ _ _ (by norm_num) (by norm_num) (by decide) (by decide)]
    decide
  have hq : avQ2d ⟨2000000, 1000000001⟩ > 1 / 1000 := by norm_num [avQ2d]
  rw [mpGetCodecTimebase, startTimebase_of_native _ (by decide) (by decide)]
  have hs : cInt (2000000000 + 1000000001) = none := by decide
  simp only [refineTimebase, hq, if_true, avDivQ, avInvQ, avMulQ, hr, hs]
  rfl

/-! ### Timebases that fit -/

theorem cInt_of_mem {v : ℤ} (h1 : INT_MIN ≤ v) (h2 : v ≤ INT_MAX) : cInt v = some v :=
  if_pos ⟨h1, h2⟩

theorem ceil_div_eq_ediv {n d : ℤ} (hd : 0 < d) : ⌈(n : ℚ) / d⌉ = (n + d - 1) / d := by
  have h1 := Int.ediv_mul_le (n + d - 1) hd.ne'
  have h2 := Int.lt_ediv_add_one_mul_self (n + d - 1) hd
  have hdq : (0 : ℚ) < d := by exact_mod_cast hd
  rw [Int.ceil_eq_iff, lt_div_iff₀ hdq, div_le_iff₀ hdq]
  constructor
  · have : (((n + d - 1) / d * d : ℤ) : ℚ) ≤ ((n + d - 1 : ℤ) : ℚ) := by exact_mod_cast h1
    push_cast at this
    linarith
  · have : n ≤ (n + d - 1) / d * d := by linarith
    exact_mod_cast this

/-- A fraction of positive terms that fits comes back from `av_reduce` with positive terms,
none larger, and the same value. -/
theorem AvReduce.run_of_fits (red : AvReduce) {n d max : ℤ} (hn : 0 < n) (hd : 0 < d)
    (hnm : n ≤ max) (hdm : d ≤ max) :
    0 < (red.run n d max).1 ∧ 0 < (red.run n d max).2 ∧ (red.run n d max).1 ≤ n ∧
      (red.run n d max).2 ≤ d ∧ ((red.run n d max).1 : ℚ) / (red.run n d max).2 = n / d := by
  have hg : (0 : ℤ) < Int.gcd n d := by exact_mod_cast Int.gcd_pos_of_ne_zero_left d hn.ne'
  have hn' := Int.ediv_le_self (Int.gcd n d : ℤ) hn.le
  have hd' := Int.ediv_le_self (Int.gcd n d : ℤ) hd.le
  rw [red.run_exact n d max hn hd (hn'.trans hnm) (hd'.trans hdm)]
  refine ⟨Int.ediv_pos_of_pos_of_dvd hn hg.le Int.gcd_dvd_left,
    Int.ediv_pos_of_pos_of_dvd hd hg.le Int.gcd_dvd_right, hn', hd', ?_⟩
  have hgq : ((Int.gcd n d : ℤ) : ℚ) ≠ 0 := by exact_mod_cast hg.ne'
  have hg0 : Int.gcd n d ≠ 0 := by omega
  have hdq : (d : ℚ) ≠ 0 := by exact_mod_cast hd.ne'
  rw [Int.cast_div Int.gcd_dvd_left hgq, Int.cast_div Int.gcd_dvd_right hgq]
  field_simp

theorem startTimebase_pos (c : MpCodecParams) :
    0 < (startTimebase c).num ∧ 0 < (startTimebase c).den := by
  simp only [startTimebase]
  split_ifs with h1 h2 h3 <;> simp only [AV_TIME_BASE_Q, avInvQ] at * <;> omega

/-- Every frame-rate timebase, with terms of absolute value at most `1000000` as
`av_d2q(fps, 1000000)` gives them, and `AV_TIME_BASE_Q` fit. -/
theorem startTimebase_fits_of_fps (c : MpCodecParams)
    (hnative : c.nativeTbNum < 1 ∨ c.nativeTbDen < 1) (hnum : |c.fps.num| ≤ 1000000)
    (hden : |c.fps.den| ≤ 1000000) :
    1000 * (startTimebase c).num + (startTimebase c).den ≤ INT_MAX := by
  rw [abs_le] at hnum hden
  simp only [startTimebase, if_pos hnative]
  split_ifs <;> simp only [AV_TIME_BASE_Q, avInvQ, INT_MAX] at * <;> omega

theorem refineTimebase_fine (red : AvReduce) {tb : AVRational} (h : ¬avQ2d tb > 1 / 1000) :
    refineTimebase red tb = some tb :=
  if_neg h

theorem mul_ceil_lt (a : ℤ) {b : ℤ} (hb : 0 < b) :
    b * ⌈1000 * avQ2d ⟨a, b⟩⌉ < 1000 * a + b := by
  have hbq : (0 : ℚ) < b := by exact_mod_cast hb
  have hc := Int.ceil_lt_add_one (1000 * avQ2d ⟨a, b⟩)
  have : ((b * ⌈1000 * avQ2d ⟨a, b⟩⌉ : ℤ) : ℚ) < 1000 * a + b := by
    calc ((b * ⌈1000 * avQ2d ⟨a, b⟩⌉ : ℤ) : ℚ) = b * ⌈1000 * avQ2d ⟨a, b⟩⌉ := Int.cast_mul _ _
      _ < b * (1000 * avQ2d ⟨a, b⟩ + 1) := mul_lt_mul_of_pos_left hc hbq
      _ = 1000 * a + b := by simp only [avQ2d]; field_simp
  exact_mod_cast this

/-- Above a millisecond, a timebase with `1000 · num + den ≤ INT_MAX` gets the denominator
`den · ⌈1000 t⌉`, and no `int` expression overflows. -/
theorem refineTimebase_coarse (red : AvReduce) {a b : ℤ} (ha : 0 < a) (hb : 0 < b)
    (hfit : 1000 * a + b ≤ INT_MAX) (hc : avQ2d ⟨a, b⟩ > 1 / 1000) :
    refineTimebase red ⟨a, b⟩ = some ⟨a, b * ⌈1000 * avQ2d ⟨a, b⟩⌉⟩ := by
  obtain ⟨h1, h2, h3, h4, hv⟩ :=
    red.run_of_fits (by omega : 0 < a * 1000) (by omega : 0 < b * 1)
      (by omega : a * 1000 ≤ INT_MAX) (by omega : b * 1 ≤ INT_MAX)
  set n := (red.run (a * 1000) (b * 1) INT_MAX).1
  set d := (red.run (a * 1000) (b * 1) INT_MAX).2
  have hq : (n + d - 1) / d = ⌈1000 * avQ2d ⟨a, b⟩⌉ := by
    rw [← ceil_div_eq_ediv h2, hv]
    congr 1
    simp only [avQ2d]
    push_cast
    ring
  have hq0 : 0 ≤ (n + d - 1) / d := Int.ediv_nonneg (by omega) h2.le
  have hqle : (n + d - 1) / d ≤ n + d - 1 := Int.ediv_le_self _ (by omega)
  have hlt := mul_ceil_lt a hb
  have hmul : 0 ≤ b * ⌈1000 * avQ2d ⟨a, b⟩⌉ := mul_nonneg hb.le (hq ▸ hq0)
  have e1 : cInt (n + d) = some (n + d) := cInt_of_mem (by unfold INT_MIN; omega) (by omega)
  have e2 : cInt (n + d - 1) = some (n + d - 1) :=
    cInt_of_mem (by unfold INT_MIN; omega) (by omega)
  have e3 : cDiv (n + d - 1) d = some ⌈1000 * avQ2d ⟨a, b⟩⌉ := by
    rw [cDiv, if_neg (by unfold INT_MIN; omega), Int.tdiv_eq_ediv (by omega) h2.le, hq,
      cInt_of_mem (by unfold INT_MIN; omega) (by omega)]
  have e4 : cInt (b * ⌈1000 * avQ2d ⟨a, b⟩⌉) = some (b * ⌈1000 * avQ2d ⟨a, b⟩⌉) :=
    cInt_of_mem (by unfold INT_MIN; omega) (by omega)
  rw [refineTimebase, if_pos hc]
  simp only [avDivQ, avInvQ, avMulQ, e1, e2, e3, e4, Option.bind_eq_bind, Option.some_bind]
  rfl

/-- The last step: `av_reduce` into `int` range and the validity check. -/
theorem mpGetCodecTimebase_of_refine (red : AvReduce) (c : MpCodecParams) {t : AVRational}
    {a b : ℤ} (ht : startTimebase c = t) (h : refineTimebase red t = some ⟨a, b⟩) (ha : 0 < a)
    (hb : 0 < b)
    (haM : a ≤ INT_MAX) (hbM : b ≤ INT_MAX) :
    ∃ tb, mpGetCodecTimebase red c = some tb ∧ 1 ≤ tb.num ∧ 1 ≤ tb.den ∧
      avQ2d tb = a / b := by
  obtain ⟨h1, h2, -, -, hv⟩ := red.run_of_fits ha hb haM hbM
  refine ⟨⟨(red.run a b INT_MAX).1, (red.run a b INT_MAX).2⟩, ?_, h1, h2, hv⟩
  simp only [mpGetCodecTimebase, ht, h, Option.bind_eq_bind, Option.some_bind]
  rw [if_neg (by omega)]
  rfl

/-- For every codec whose starting timebase `t` has `1000 · t.num + t.den ≤ INT_MAX`, no
`int` expression overflows, and the result has positive terms and the value
`t / ⌈1000 t⌉` when `t > 1/1000` and `t` otherwise; it never exceeds `1/1000`. -/
theorem mpGetCodecTimebase_eq (red : AvReduce) (c : MpCodecParams)
    (hfit : 1000 * (startTimebase c).num + (startTimebase c).den ≤ INT_MAX) :
    ∃ tb, mpGetCodecTimebase red c = some tb ∧ 1 ≤ tb.num ∧ 1 ≤ tb.den ∧
      avQ2d tb = (if avQ2d (startTimebase c) > 1 / 1000 then
        avQ2d (startTimebase c) / ⌈1000 * avQ2d (startTimebase c)⌉ else avQ2d (startTimebase c)) ∧
      avQ2d tb ≤ 1 / 1000 := by
  have hpos := startTimebase_pos c
  generalize ht : startTimebase c = t at hfit hpos ⊢
  obtain ⟨a, b⟩ := t
  obtain ⟨ha, hb⟩ : 0 < a ∧ 0 < b := hpos
  replace hfit : 1000 * a + b ≤ INT_MAX := hfit
  have hbq : (0 : ℚ) < b := by exact_mod_cast hb
  by_cases hc : avQ2d ⟨a, b⟩ > 1 / 1000
  · have hq : 0 < ⌈1000 * avQ2d ⟨a, b⟩⌉ := Int.ceil_pos.mpr (by linarith)
    have hle : (1000 * a : ℚ) ≤ b * ⌈1000 * avQ2d ⟨a, b⟩⌉ := by
      have h1 := mul_le_mul_of_nonneg_right (Int.le_ceil (1000 * avQ2d ⟨a, b⟩)) hbq.le
      have h2 : avQ2d ⟨a, b⟩ * b = a := by simp only [avQ2d]; field_simp
      linarith
    obtain ⟨tb, hrun, h1, h2, hv⟩ := mpGetCodecTimebase_of_refine red c ht
      (refineTimebase_coarse red ha hb hfit hc) ha (mul_pos hb hq) (by omega)
      (by have := mul_ceil_lt a hb; omega)
    refine ⟨tb, hrun, h1, h2, ?_, ?_⟩
    · rw [if_pos hc, hv, avQ2d]
      push_cast
      field_simp
    · rw [hv, div_le_div_iff₀ (by push_cast; positivity) (by norm_num)]
      push_cast
      linarith
  · obtain ⟨tb, hrun, h1, h2, hv⟩ := mpGetCodecTimebase_of_refine red c ht
      (refineTimebase_fine red hc) ha hb (by omega) (by omega)
    exact ⟨tb, hrun, h1, h2, by rw [if_neg hc, hv, avQ2d], by rw [hv]; simpa [avQ2d] using hc⟩

/-- A native timebase of `1/25` s is refined to `1/1000`. -/
theorem mpGetCodecTimebase_eq_native_25 :
    ∃ tb, mpGetCodecTimebase AvReduce.lowestTerms ⟨1, 25, false, ⟨0, 0⟩⟩ = some tb ∧
      1 ≤ tb.num ∧ 1 ≤ tb.den ∧
      avQ2d tb = (if avQ2d (startTimebase ⟨1, 25, false, ⟨0, 0⟩⟩) > 1 / 1000 then
        avQ2d (startTimebase ⟨1, 25, false, ⟨0, 0⟩⟩) /
          ⌈1000 * avQ2d (startTimebase ⟨1, 25, false, ⟨0, 0⟩⟩)⌉
        else avQ2d (startTimebase ⟨1, 25, false, ⟨0, 0⟩⟩)) ∧
      avQ2d tb ≤ 1 / 1000 :=
  mpGetCodecTimebase_eq _ _ (by decide)

end Mpv
