import DealDesk.Number.Real

/-!
# Fixed-point decimals

A decimal is a 96-bit mantissa with a sign and a scale, the number of its
decimal places, from 0 to 28.  Several decimals denote one number: `1.5` and
`1.50` differ in mantissa and scale.  `normalized` picks the one without
trailing zeros.

**Results.** Normalizing keeps the number, and its result ends in no zero
unless its scale is zero.
-/

namespace DealDesk

/-- `± mantissa / 10 ^ scale`. -/
structure Decimal where
  negative : Bool
  mantissa : Nat
  scale : Nat
  mantissa_lt : mantissa < Nat.pow 2 96
  scale_le : scale ≤ 28
deriving DecidableEq

namespace Decimal

/-- A decimal from its parts, if they are in range; zero has no sign. -/
def ofParts? (negative : Bool) (mantissa scale : Nat) : Option Decimal :=
  if h : mantissa < Nat.pow 2 96 ∧ scale ≤ 28 then
    some ⟨negative && mantissa ≠ 0, mantissa, scale, h.1, h.2⟩
  else none

/-- A whole number, if its mantissa fits. -/
def ofInt? (n : Int) : Option Decimal :=
  ofParts? (n < 0) n.natAbs 0

/-- Trailing zeros of a mantissa leave it, as far as the scale allows. -/
def strip : Nat → Nat → Nat × Nat
  | 0, m => (m, 0)
  | s + 1, m => if m % 10 = 0 then strip s (m / 10) else (m, s + 1)

theorem strip_le (s m : Nat) :
    (strip s m).1 ≤ m ∧ (strip s m).2 ≤ s := by
  induction s generalizing m with
  | zero => simp [strip]
  | succ s ih =>
      unfold strip
      split
      · have := ih (m / 10)
        omega
      · simp

/-- What is stripped from the mantissa is the power of ten lost by the scale. -/
theorem strip_value (s m : Nat) :
    (strip s m).1 * Nat.pow 10 (s - (strip s m).2) = m := by
  induction s generalizing m with
  | zero => simp [strip]
  | succ s ih =>
      unfold strip
      split
      · rename_i hm
        have hle := (strip_le s (m / 10)).2
        have hsub : s + 1 - (strip s (m / 10)).2 = (s - (strip s (m / 10)).2) + 1 := by
          omega
        have hpow (k : Nat) : Nat.pow 10 (k + 1) = Nat.pow 10 k * 10 := rfl
        rw [hsub, hpow, ← Nat.mul_assoc, ih]
        omega
      · simp

theorem strip_last (s m : Nat) :
    (strip s m).2 = 0 ∨ (strip s m).1 % 10 ≠ 0 := by
  induction s generalizing m with
  | zero => simp [strip]
  | succ s ih =>
      unfold strip
      split
      · exact ih _
      · rename_i hm
        exact Or.inr hm

/-- The same number without trailing zeros; zero loses its sign. -/
def normalized (d : Decimal) : Decimal :=
  { negative := d.negative && d.mantissa ≠ 0
    mantissa := (strip d.scale d.mantissa).1
    scale := (strip d.scale d.mantissa).2
    mantissa_lt := Nat.lt_of_le_of_lt (strip_le _ _).1 d.mantissa_lt
    scale_le := Nat.le_trans (strip_le _ _).2 d.scale_le }

/-- Plain decimal notation with as many places as the scale says. -/
def spell (d : Decimal) : Numeral :=
  Numeral.positional d.negative (Digit.ofNat d.mantissa) (-(d.scale : Int)) false

/-- Plain decimal notation without trailing zeros. -/
def text (d : Decimal) : String :=
  String.ofList d.normalized.spell.text

/-- A size that can be dealt: positive, with at most two decimal places. -/
def isDealSize (d : Decimal) : Bool :=
  !d.negative && d.mantissa ≠ 0 && d.normalized.scale ≤ 2

end Decimal
end DealDesk
