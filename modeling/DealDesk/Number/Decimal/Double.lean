import DealDesk.Number.Decimal

/-!
# Decimals as doubles

The double that a document carries for a decimal.  It is the sum of the whole
part and of the quotient of the places, rounded once more to as many places as
the scale says, so it is not always the double nearest to the decimal.
-/

namespace DealDesk

/-- A power by repeated squaring, each product rounded; `fuel` bounds the squarings. -/
def powerBySquaring : Nat → Float → Nat → Float → Float
  | 0, _, _, acc => acc
  | fuel + 1, b, n, acc =>
      let acc := if n % 2 = 1 then acc * b else acc
      if n / 2 = 0 then acc else powerBySquaring fuel (b * b) (n / 2) acc

namespace Decimal

/-- The size of the decimal as a double. -/
def magnitude (d : Decimal) : Float :=
  if d.scale = 0 then Float.ofNat d.mantissa
  else
    let whole := Float.ofNat (d.mantissa / Nat.pow 10 d.scale)
    let places :=
      Float.ofNat (d.mantissa % Nat.pow 10 d.scale) / Float.ofNat (Nat.pow 10 d.scale)
    if places == 0.0 then whole
    else
      let p := powerBySquaring 6 10.0 d.scale 1.0
      ((whole + places) * p).round / p

/-- The double that stands for the decimal in a document; a whole zero has no sign. -/
def toFloat (d : Decimal) : Float :=
  if d.negative && (d.mantissa ≠ 0 || d.scale ≠ 0) then -d.magnitude else d.magnitude

end Decimal
end DealDesk
