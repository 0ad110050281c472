/-
Rounding: `llrint`, and the rounding of `float` and `double` arithmetic.

A result of `float` or `double` arithmetic is the exact result rounded to the nearest
value of the format, ties to even: the nearest multiple of the format's quantum at that
magnitude, which `llrint` finds in units of the quantum (`BinaryFormat.round`).

* `llrint_spec` — `llrint` gives the nearest integer, the even one at a tie;
* `BinaryFormat.abs_round_sub_le_of_normal` — in the normal range rounding moves a value
  by at most `2^-prec` of it;
* `BinaryFormat.abs_round_sub_le` — everywhere, by at most that plus half the least
  subnormal;
* `BinaryFormat.round_mul_zpow` — a value with a significand of `prec` bits at an exponent
  the format has is kept, so an integer below `2^prec` is;
* `BinaryFormat.round_eq_of_near` — a value within half a quantum of a value of the format
  in the same binade rounds to it.

Design notes: a value is a rational; signed zeros, infinities and NaNs are not modelled,
and the exponent range has no top, so a result past the largest finite value keeps its
rounded value instead of becoming an infinity.  Values below the least normal one round
to multiples of the least subnormal.
-/
import Mathlib.Data.Int.Log
import Mathlib.Data.Rat.Floor

namespace Mpv

/-! ### `llrint` -/

/-- `llrint(q)` in the default rounding mode: the nearest integer, the even one at a tie. -/
def llrint (q : ℚ) : ℤ :=
  if q - ⌊q⌋ < 1 / 2 then ⌊q⌋
  else if 1 / 2 < q - ⌊q⌋ then ⌊q⌋ + 1
  else if ⌊q⌋ % 2 = 0 then ⌊q⌋ else ⌊q⌋ + 1

/-- `n` is `q` rounded to the nearest integer, ties to even. -/
structure RoundsToNearestEven (q : ℚ) (n : ℤ) : Prop where
  nearest : ∀ m : ℤ, |q - n| ≤ |q - m|
  even_of_tie : ∀ m : ℤ, m ≠ n → |q - m| = |q - n| → n % 2 = 0

theorem abs_sub_floor (q : ℚ) : |q - ⌊q⌋| = q - ⌊q⌋ :=
  abs_of_nonneg (sub_nonneg.mpr (Int.floor_le q))

theorem abs_sub_floor_add_one (q : ℚ) : |q - ((⌊q⌋ + 1 : ℤ) : ℚ)| = ⌊q⌋ + 1 - q := by
  rw [abs_sub_comm, Int.cast_add, Int.cast_one]
  exact abs_of_nonneg (by linarith [Int.lt_floor_add_one q])

/-- Every integer but `⌊q⌋` and `⌊q⌋ + 1` is at least `1` away from `q`. -/
theorem one_le_abs_sub_int (q : ℚ) {m : ℤ} (h0 : m ≠ ⌊q⌋) (h1 : m ≠ ⌊q⌋ + 1) :
    1 ≤ |q - m| := by
  rcases lt_or_gt_of_ne h0 with h | h
  · have : (m : ℚ) + 1 ≤ ⌊q⌋ := by exact_mod_cast h
    exact le_abs.mpr (.inl (by linarith [Int.floor_le q]))
  · have : (⌊q⌋ : ℚ) + 2 ≤ m := by exact_mod_cast (show ⌊q⌋ + 2 ≤ m by omega)
    exact le_abs.mpr (.inr (by linarith [Int.lt_floor_add_one q]))

/-- `llrint` picks `⌊q⌋` or `⌊q⌋ + 1`, whichever is not farther. -/
theorem llrint_cases (q : ℚ) :
    llrint q = ⌊q⌋ ∧ q - ⌊q⌋ ≤ 1 / 2 ∨ llrint q = ⌊q⌋ + 1 ∧ 1 / 2 ≤ q - ⌊q⌋ := by
  unfold llrint
  split_ifs with ha hb
  · exact .inl ⟨rfl, ha.le⟩
  · exact .inr ⟨rfl, hb.le⟩
  · exact .inl ⟨rfl, not_lt.mp hb⟩
  · exact .inr ⟨rfl, not_lt.mp ha⟩

theorem llrint_even_of_tie (q : ℚ) (h : q - ⌊q⌋ = 1 / 2) : llrint q % 2 = 0 := by
  simp only [llrint, h, lt_irrefl, if_false]
  split_ifs <;> omega

theorem llrint_spec (q : ℚ) : RoundsToNearestEven q (llrint q) := by
  have h0 := abs_sub_floor q
  have h1 := abs_sub_floor_add_one q
  have hfar : ∀ m : ℤ, m ≠ ⌊q⌋ → m ≠ ⌊q⌋ + 1 → 1 ≤ |q - m| := fun m => one_le_abs_sub_int q
  have htie := llrint_even_of_tie q
  rcases llrint_cases q with ⟨hn, hd⟩ | ⟨hn, hd⟩ <;> rw [hn] at htie ⊢
  · refine ⟨fun m => ?_, fun m hne heq => ?_⟩
    · rw [h0]
      by_cases hm0 : m = ⌊q⌋
      · rw [hm0, h0]
      by_cases hm1 : m = ⌊q⌋ + 1
      · rw [hm1, h1]; linarith
      · linarith [hfar m hm0 hm1]
    · rw [h0] at heq
      by_cases hm1 : m = ⌊q⌋ + 1
      · rw [hm1, h1] at heq; exact htie (by linarith)
      · linarith [hfar m hne hm1]
  · refine ⟨fun m => ?_, fun m hne heq => ?_⟩
    · rw [h1]
      by_cases hm1 : m = ⌊q⌋ + 1
      · rw [hm1, h1]
      by_cases hm0 : m = ⌊q⌋
      · rw [hm0, h0]; linarith
      · linarith [hfar m hm0 hm1, Int.lt_floor_add_one q]
    · rw [h1] at heq
      by_cases hm0 : m = ⌊q⌋
      · rw [hm0, h0] at heq; exact htie (by linarith)
      · linarith [hfar m hm0 hne, Int.lt_floor_add_one q]

@[simp] theorem llrint_intCast (k : ℤ) : llrint k = k := by
  simp [llrint]

theorem abs_sub_llrint_le (q : ℚ) : |q - llrint q| ≤ 1 / 2 := by
  rcases llrint_cases q with ⟨hn, hd⟩ | ⟨hn, hd⟩ <;> rw [hn]
  · rw [abs_sub_floor]; exact hd
  · rw [abs_sub_floor_add_one]; linarith [Int.lt_floor_add_one q]

/-- An integer less than half away from `q` is `llrint q`. -/
theorem llrint_eq_of_abs_sub_lt {q : ℚ} {n : ℤ} (h : |q - n| < 1 / 2) : llrint q = n := by
  have hn := (llrint_spec q).nearest n
  have hlt : |((llrint q - n : ℤ) : ℚ)| < 1 := by
    rw [Int.cast_sub]
    calc |(llrint q : ℚ) - n| = |(q - n) - (q - llrint q)| := by ring_nf
      _ ≤ |q - n| + |q - llrint q| := abs_sub _ _
      _ < 1 := by linarith
  have : |llrint q - n| < 1 := by exact_mod_cast hlt
  rw [abs_lt] at this
  omega

/-! ### Binary formats -/

/-- A binary floating-point format: `prec` significand bits, the leading one included, and
`emin` the exponent of its least normal binade. -/
structure BinaryFormat where
  prec : ℕ
  emin : ℤ

namespace BinaryFormat

/-- `float`. -/
def binary32 : BinaryFormat := ⟨24, -126⟩

/-- `double`. -/
def binary64 : BinaryFormat := ⟨53, -1022⟩

/-- The exponent of the quantum of `F` at `x`: one unit in the last place of the binade of
`x`, or of the least normal binade when `x` is below it. -/
def quantumExp (F : BinaryFormat) (x : ℚ) : ℤ := max (Int.log 2 |x|) F.emin - (F.prec - 1)

/-- `x` rounded to the nearest value of `F`, ties to even. -/
def round (F : BinaryFormat) (x : ℚ) : ℚ :=
  llrint (x / 2 ^ F.quantumExp x) * 2 ^ F.quantumExp x

variable (F : BinaryFormat)

theorem two_zpow_pos (k : ℤ) : (0 : ℚ) < 2 ^ k := zpow_pos two_pos k

@[simp] theorem round_zero : F.round 0 = 0 := by
  simp [round, show llrint 0 = 0 by simpa using llrint_intCast 0]

/-- Rounding moves `x` by at most half the quantum at `x`. -/
theorem abs_round_sub_le_quantum (x : ℚ) : |F.round x - x| ≤ 2 ^ F.quantumExp x / 2 := by
  have hq := two_zpow_pos (F.quantumExp x)
  calc |F.round x - x|
      = |x / 2 ^ F.quantumExp x - llrint (x / 2 ^ F.quantumExp x)| * 2 ^ F.quantumExp x := by
        rw [round, ← abs_of_pos hq, ← abs_mul, abs_of_pos hq, abs_sub_comm, sub_mul,
          div_mul_cancel₀ _ hq.ne']
    _ ≤ 1 / 2 * 2 ^ F.quantumExp x := mul_le_mul_of_nonneg_right (abs_sub_llrint_le _) hq.le
    _ = 2 ^ F.quantumExp x / 2 := by ring

/-- `x ≠ 0` is at least `2 ^ log₂|x|` in magnitude. -/
theorem zpow_log_le_abs {x : ℚ} (hx : x ≠ 0) : (2 : ℚ) ^ Int.log 2 |x| ≤ |x| := by
  exact_mod_cast Int.zpow_log_le_self one_lt_two (abs_pos.mpr hx)

/-- `log₂|x|` is the exponent of the binade `|x|` lies in. -/
theorem log_abs_eq {x : ℚ} {e : ℤ} (hlo : 2 ^ e ≤ |x|) (hhi : |x| < 2 ^ (e + 1)) :
    Int.log 2 |x| = e := by
  have hpos : 0 < |x| := lt_of_lt_of_le (two_zpow_pos e) hlo
  have h1 := (Int.zpow_le_iff_le_log one_lt_two hpos).mp (by exact_mod_cast hlo)
  have h2 := (Int.lt_zpow_iff_log_lt one_lt_two hpos).mp (by exact_mod_cast hhi)
  omega

/-- In the normal range the quantum is at most `|x| / 2 ^ (prec - 1)`. -/
theorem two_zpow_quantumExp_le {x : ℚ} (hx : 2 ^ F.emin ≤ |x|) :
    (2 : ℚ) ^ F.quantumExp x ≤ |x| / 2 ^ ((F.prec : ℤ) - 1) := by
  have hpos : 0 < |x| := lt_of_lt_of_le (two_zpow_pos _) hx
  have hlog : F.emin ≤ Int.log 2 |x| :=
    (Int.zpow_le_iff_le_log one_lt_two hpos).mp (by exact_mod_cast hx)
  rw [quantumExp, max_eq_left hlog, zpow_sub₀ two_ne_zero]
  exact div_le_div_of_nonneg_right (zpow_log_le_abs (abs_pos.mp hpos)) (two_zpow_pos _).le

/-- **Normal range.**  Rounding a value of at least the least normal magnitude moves it by
at most `2 ^ -prec` of it. -/
theorem abs_round_sub_le_of_normal {x : ℚ} (hx : 2 ^ F.emin ≤ |x|) :
    |F.round x - x| ≤ |x| / 2 ^ (F.prec : ℤ) := by
  have h := two_zpow_quantumExp_le F hx
  have hp : (2 : ℚ) ^ (F.prec : ℤ) = 2 ^ ((F.prec : ℤ) - 1) * 2 := by
    rw [← zpow_add_one₀ two_ne_zero, sub_add_cancel]
  calc |F.round x - x| ≤ 2 ^ F.quantumExp x / 2 := abs_round_sub_le_quantum F x
    _ ≤ |x| / 2 ^ ((F.prec : ℤ) - 1) / 2 := by linarith
    _ = |x| / 2 ^ (F.prec : ℤ) := by rw [hp, div_div]

/-- **Every value.**  Rounding moves `x` by at most `2 ^ -prec` of it plus half the least
subnormal. -/
theorem abs_round_sub_le (x : ℚ) :
    |F.round x - x| ≤ |x| / 2 ^ (F.prec : ℤ) + 2 ^ (F.emin - F.prec) := by
  have hsub := (two_zpow_pos (F.emin - F.prec)).le
  have hrel : 0 ≤ |x| / 2 ^ (F.prec : ℤ) := div_nonneg (abs_nonneg x) (two_zpow_pos _).le
  rcases eq_or_ne x 0 with rfl | hx0
  · simp only [round_zero, sub_zero, abs_zero, zero_div, zero_add]; exact hsub
  by_cases hn : 2 ^ F.emin ≤ |x|
  · linarith [abs_round_sub_le_of_normal F hn]
  · -- below the normal range the quantum is the least subnormal
    have hlog : Int.log 2 |x| < F.emin :=
      (Int.lt_zpow_iff_log_lt one_lt_two (abs_pos.mpr hx0)).mp (by exact_mod_cast not_le.mp hn)
    have hq : F.quantumExp x = F.emin - F.prec + 1 := by
      rw [quantumExp, max_eq_right hlog.le]; ring
    have h := abs_round_sub_le_quantum F x
    rw [hq, zpow_add_one₀ two_ne_zero, mul_div_cancel_right₀ _ two_ne_zero] at h
    linarith

/-- A value `m * 2 ^ k` with `|m| < 2 ^ prec` and `k` at least the exponent of the least
subnormal is a value of `F`, and rounding keeps it. -/
theorem round_mul_zpow (m k : ℤ) (hm : |m| < 2 ^ F.prec)
    (hk : F.emin - (F.prec - 1) ≤ k) : F.round (m * 2 ^ k) = m * 2 ^ k := by
  rcases eq_or_ne m 0 with rfl | hm0
  · simp
  have hk2 := two_zpow_pos k
  have hx0 : (m : ℚ) * 2 ^ k ≠ 0 := mul_ne_zero (by exact_mod_cast hm0) hk2.ne'
  -- the binade of `m * 2^k` is below `2 ^ (prec + k)`, so its quantum is at most `2^k`
  have hhi : |(m : ℚ) * 2 ^ k| < 2 ^ ((F.prec : ℤ) + k) := by
    rw [abs_mul, abs_of_pos hk2, zpow_add₀ two_ne_zero, zpow_natCast]
    exact mul_lt_mul_of_pos_right (by exact_mod_cast hm) hk2
  have hlog := (Int.lt_zpow_iff_log_lt one_lt_two (abs_pos.mpr hx0)).mp (by exact_mod_cast hhi)
  have hq : F.quantumExp (m * 2 ^ k) ≤ k := by rw [quantumExp]; omega
  obtain ⟨d, hd⟩ : ∃ d : ℕ, k = F.quantumExp (m * 2 ^ k) + d :=
    ⟨(k - F.quantumExp (m * 2 ^ k)).toNat, by omega⟩
  have hint : (m : ℚ) * 2 ^ k / 2 ^ F.quantumExp (m * 2 ^ k) = ((m * 2 ^ d : ℤ) : ℚ) := by
    rw [Int.cast_mul, Int.cast_pow, Int.cast_ofNat, ← zpow_natCast, mul_div_assoc,
      ← zpow_sub₀ two_ne_zero]
    congr 2
    omega
  rw [round, hint, llrint_intCast, ← hint, div_mul_cancel₀ _ (two_zpow_pos _).ne']

/-- An integer below `2 ^ prec` in magnitude is a value of every format whose least normal
exponent is at most `prec - 1`. -/
theorem round_intCast (n : ℤ) (hn : |n| < 2 ^ F.prec) (he : F.emin ≤ F.prec - 1) :
    F.round n = n := by
  simpa using round_mul_zpow F n 0 hn (by omega)

/-- **Evaluation.**  A value `x` in the binade `[2 ^ (prec - 1 + k), 2 ^ (prec + k))` of a
format with quantum `2 ^ k` there rounds to `m * 2 ^ k` when it is less than half a
quantum away from it. -/
theorem round_eq_of_near {x : ℚ} (m k : ℤ) (hk : F.emin - (F.prec - 1) ≤ k)
    (hlo : 2 ^ ((F.prec : ℤ) - 1 + k) ≤ |x|) (hhi : |x| < 2 ^ ((F.prec : ℤ) + k))
    (hnear : |x - m * 2 ^ k| < 2 ^ k / 2) : F.round x = m * 2 ^ k := by
  have hk2 := two_zpow_pos k
  have hlog : Int.log 2 |x| = F.prec - 1 + k :=
    log_abs_eq hlo (by rwa [show (F.prec : ℤ) - 1 + k + 1 = F.prec + k by ring])
  have hq : F.quantumExp x = k := by rw [quantumExp, hlog]; omega
  have hm : llrint (x / 2 ^ k) = m := llrint_eq_of_abs_sub_lt <| by
    rw [show x / 2 ^ k - m = (x - m * 2 ^ k) / 2 ^ k by
        rw [sub_div, mul_div_cancel_right₀ _ hk2.ne'],
      abs_div, abs_of_pos hk2, div_lt_iff₀ hk2]
    linarith
  rw [round, hq, hm]

end BinaryFormat

open BinaryFormat

/-! ### `float` and `double` -/

/-- The result of a `float` operation whose exact result is `x`. -/
def roundFloat (x : ℚ) : ℚ := binary32.round x

/-- The result of a `double` operation whose exact result is `x`. -/
def roundDouble (x : ℚ) : ℚ := binary64.round x

@[simp] theorem roundFloat_zero : roundFloat 0 = 0 := round_zero _

@[simp] theorem roundDouble_zero : roundDouble 0 = 0 := round_zero _

/-- An `int` below `2 ^ 24` in magnitude converts to `float` exactly. -/
theorem roundFloat_intCast {n : ℤ} (hn : |n| < 2 ^ 24) : roundFloat n = n :=
  round_intCast binary32 n hn (by decide)

/-- An integer below `2 ^ 53` in magnitude converts to `double` exactly. -/
theorem roundDouble_intCast {n : ℤ} (hn : |n| < 2 ^ 53) : roundDouble n = n :=
  round_intCast binary64 n hn (by decide)

theorem two_zpow_natCast (n : ℕ) : (2 : ℚ) ^ (n : ℤ) = 2 ^ n := zpow_natCast 2 n

theorem two_zpow_neg_natCast (n : ℕ) : (2 : ℚ) ^ (-(n : ℤ)) = 1 / 2 ^ n := by
  rw [zpow_neg, zpow_natCast, one_div]

/-- A `double` result in the normal range is within `2 ^ -53` of the exact one. -/
theorem abs_roundDouble_sub_le {x : ℚ} (hx : 1 / 2 ^ 1022 ≤ |x|) :
    |roundDouble x - x| ≤ |x| / 2 ^ 53 := by
  have h := abs_round_sub_le_of_normal binary64 (x := x)
    (by rw [show binary64.emin = -((1022 : ℕ) : ℤ) from rfl, two_zpow_neg_natCast]; exact hx)
  rwa [show ((binary64.prec : ℕ) : ℤ) = ((53 : ℕ) : ℤ) from rfl, two_zpow_natCast] at h

/-- A `double` result is within `2 ^ -53` of the exact one plus half the least
subnormal. -/
theorem abs_roundDouble_sub_le_add (x : ℚ) :
    |roundDouble x - x| ≤ |x| / 2 ^ 53 + 1 / 2 ^ 1075 := by
  have h := abs_round_sub_le binary64 x
  rwa [show ((binary64.prec : ℕ) : ℤ) = ((53 : ℕ) : ℤ) from rfl,
    show binary64.emin - ((53 : ℕ) : ℤ) = -((1075 : ℕ) : ℤ) from rfl, two_zpow_natCast,
    two_zpow_neg_natCast] at h

end Mpv
