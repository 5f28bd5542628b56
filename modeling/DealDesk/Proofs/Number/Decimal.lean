import DealDesk.Number.Decimal
import Mathlib.Data.Rat.Cast.Order
import Mathlib.Tactic.NormNum
import Mathlib.Tactic.Positivity
import Mathlib.Tactic.Ring

/-!
# The value of a decimal

Several decimals denote one number, so what is asked of a decimal should depend on the
number alone.  The scale that is left after the trailing zeros is the least one that the
number can be written with: a scale is enough if the power of ten between it and the one
at hand divides the mantissa.

**Results.** `toRat_normalized`: trailing zeros make no difference to the value.
`strip_snd_le_iff`: which scales are enough for a mantissa.  `dealt_by_value`: a size can be
dealt if and only if its value is a positive number of hundredths.
-/

namespace DealDesk
namespace Decimal

/-- The size of the number that the decimal denotes. -/
def absRat (d : Decimal) : ℚ :=
  d.mantissa / 10 ^ d.scale

/-- The number that the decimal denotes. -/
def toRat (d : Decimal) : ℚ :=
  if d.negative then -d.absRat else d.absRat

/-! ### Trailing zeros -/

/-- A scale is enough if the places past it are zeros of the mantissa. -/
theorem strip_snd_le_iff (s m k : Nat) :
    (strip s m).2 ≤ k ↔ 10 ^ (s - k) ∣ m := by
  induction s generalizing m with
  | zero => simp [strip]
  | succ s ih =>
      rw [strip]
      by_cases hk : s + 1 ≤ k
      · have hle := (strip_le s (m / 10)).2
        rw [Nat.sub_eq_zero_of_le hk, pow_zero]
        split
        · exact iff_of_true (by omega) (one_dvd m)
        · exact iff_of_true hk (one_dvd m)
      · have hsub : s + 1 - k = (s - k) + 1 := by omega
        rw [hsub, pow_succ]
        split
        · rename_i hlast
          have hten : m = m / 10 * 10 := by omega
          rw [ih]
          conv_rhs => rw [hten]
          exact (Nat.mul_dvd_mul_iff_right (by omega)).symm
        · rename_i hlast
          refine iff_of_false hk fun hdvd => hlast ?_
          exact Nat.mod_eq_zero_of_dvd (dvd_of_mul_left_dvd hdvd)

/-- A mantissa with `s` places is a whole number of units with `k` places. -/
theorem exists_mul_pow_eq_iff (s m k : Nat) :
    (∃ n, m * 10 ^ k = n * 10 ^ s) ↔ 10 ^ (s - k) ∣ m := by
  rcases Nat.le_total s k with hle | hle
  · have hsplit : 10 ^ k = 10 ^ (k - s) * 10 ^ s := by
      rw [← pow_add, Nat.sub_add_cancel hle]
    rw [Nat.sub_eq_zero_of_le hle, pow_zero]
    refine iff_of_true ⟨m * 10 ^ (k - s), ?_⟩ (one_dvd m)
    rw [hsplit, mul_assoc]
  · have hsplit : 10 ^ s = 10 ^ (s - k) * 10 ^ k := by
      rw [← pow_add, Nat.sub_add_cancel hle]
    have hpos : 0 < 10 ^ k := by positivity
    constructor
    · rintro ⟨n, hn⟩
      rw [hsplit, ← mul_assoc] at hn
      exact ⟨n, by rw [mul_comm]; exact Nat.eq_of_mul_eq_mul_right hpos hn⟩
    · rintro ⟨n, rfl⟩
      exact ⟨n, by rw [hsplit]; ring⟩

theorem absRat_normalized (d : Decimal) :
    d.normalized.absRat = d.absRat := by
  have hle : d.normalized.scale ≤ d.scale := (strip_le d.scale d.mantissa).2
  have hvalue : d.normalized.mantissa * 10 ^ (d.scale - d.normalized.scale) = d.mantissa :=
    strip_value d.scale d.mantissa
  have hscale : (10 : ℚ) ^ d.scale
      = 10 ^ d.normalized.scale * 10 ^ (d.scale - d.normalized.scale) := by
    rw [← pow_add, Nat.add_sub_cancel' hle]
  have hpos : (10 : ℚ) ^ (d.scale - d.normalized.scale) ≠ 0 := by positivity
  rw [absRat, absRat, hscale, ← hvalue, Nat.cast_mul, Nat.cast_pow, Nat.cast_ofNat,
    mul_div_mul_right _ _ hpos]

/-- Trailing zeros make no difference to the value, nor does the sign of zero. -/
theorem toRat_normalized (d : Decimal) :
    d.normalized.toRat = d.toRat := by
  rw [toRat, toRat, absRat_normalized]
  by_cases hzero : d.mantissa = 0
  · simp [absRat, hzero]
  · have hsign : d.normalized.negative = d.negative := by simp [normalized, hzero]
    rw [hsign]

/-! ### Sizes -/

theorem toRat_pos_iff (d : Decimal) :
    0 < d.toRat ↔ d.negative = false ∧ d.mantissa ≠ 0 := by
  have hscale : (0 : ℚ) < 10 ^ d.scale := by positivity
  have habs : 0 ≤ d.absRat := by
    rw [absRat]
    positivity
  cases hsign : d.negative with
  | true => simp [toRat, hsign, habs]
  | false => simp [toRat, hsign, absRat, div_pos_iff_of_pos_right hscale, Nat.pos_iff_ne_zero]

theorem toRat_eq_div_iff
    {d : Decimal} (hsign : d.negative = false) (n k : Nat) :
    d.toRat = n / 10 ^ k ↔ d.mantissa * 10 ^ k = n * 10 ^ d.scale := by
  rw [toRat, hsign, if_neg Bool.false_ne_true, absRat,
    div_eq_div_iff (by positivity) (by positivity)]
  exact_mod_cast Iff.rfl

theorem isDealSize_iff (d : Decimal) :
    d.isDealSize = true ↔ 0 < d.toRat ∧ (strip d.scale d.mantissa).2 ≤ 2 := by
  rw [toRat_pos_iff, isDealSize, Bool.and_eq_true, Bool.and_eq_true, Bool.not_eq_true',
    decide_eq_true_iff, decide_eq_true_iff]
  rfl

/-- What can be dealt is a positive number of hundredths. -/
theorem isDealSize_iff_exists (d : Decimal) :
    d.isDealSize = true ↔ ∃ n : Nat, 0 < n ∧ d.toRat = n / 100 := by
  have hhundred : (100 : ℚ) = 10 ^ 2 := by norm_num
  rw [isDealSize_iff, strip_snd_le_iff, ← exists_mul_pow_eq_iff, hhundred]
  constructor
  · rintro ⟨hpos, n, hn⟩
    have hrat := (toRat_eq_div_iff ((toRat_pos_iff d).1 hpos).1 n 2).2 hn
    refine ⟨n, Nat.pos_of_ne_zero ?_, hrat⟩
    rintro rfl
    rw [hrat, Nat.cast_zero, zero_div] at hpos
    exact lt_irrefl _ hpos
  · rintro ⟨n, hn, hrat⟩
    have hpos : 0 < d.toRat := by
      rw [hrat]
      positivity
    exact ⟨hpos, n, (toRat_eq_div_iff ((toRat_pos_iff d).1 hpos).1 n 2).1 hrat⟩

/-- Two decimals of one value can both be dealt, or neither can. -/
theorem isDealSize_congr {d e : Decimal} (h : d.toRat = e.toRat) :
    d.isDealSize = e.isDealSize := by
  rw [Bool.eq_iff_iff, isDealSize_iff_exists, isDealSize_iff_exists, h]

/-- Zeros at the end of a size make no difference to whether it can be dealt. -/
theorem isDealSize_normalized (d : Decimal) :
    d.normalized.isDealSize = d.isDealSize :=
  isDealSize_congr d.toRat_normalized

/-- A size can be dealt if its value is a positive number of hundredths, however it is spelled. -/
theorem dealt_by_value (d : Decimal) :
    (d.isDealSize = true ↔ ∃ n : Nat, 0 < n ∧ d.toRat = n / 100)
      ∧ ∀ e : Decimal, e.toRat = d.toRat → e.isDealSize = d.isDealSize :=
  ⟨d.isDealSize_iff_exists, fun _ => isDealSize_congr⟩

/-- The size 1.5 with two zeros more can be dealt as 1.5 can. -/
theorem dealt_by_value_specimen :
    let short : Decimal := ⟨false, 15, 1, by decide, by decide⟩
    let long : Decimal := ⟨false, 1500, 3, by decide, by decide⟩
    long.toRat = short.toRat ∧ long.isDealSize = short.isDealSize
      ∧ (short.isDealSize = true ↔ ∃ n : Nat, 0 < n ∧ short.toRat = n / 100) := by
  intro short long
  have hvalue : long.toRat = short.toRat := by
    norm_num [toRat, absRat, short, long]
  exact ⟨hvalue, (dealt_by_value short).2 long hvalue, (dealt_by_value short).1⟩

end Decimal
end DealDesk
