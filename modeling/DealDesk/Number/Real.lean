import DealDesk.Number.Numeral
import DealDesk.Number.Shortest

/-!
# Texts of doubles

How a double is written: the fewest digits that read back, laid out with or
without an exponent.  The two layouts of the program are `Layout.wire`, for
numbers in documents, and `Layout.plain`, for numbers in prose.
-/

namespace DealDesk

/-- The decisions that the digits leave open. -/
structure Layout where
  /-- Least exponent of the first digit that is written without an exponent. -/
  positionalFrom : Option Int
  /-- Greatest exponent of the first digit that is written without an exponent. -/
  positionalTo : Option Int
  /-- A whole number keeps a zero after its point. -/
  keepsPoint : Bool
  tie : Shortest.Tie

namespace Layout

/--
Documents: no exponent from `1e-5` up to below `1e16`, a whole number keeps a zero
after its point, and a tie goes to the even neighbour.
-/
def wire : Layout := ⟨some (-5), some 15, true, .toEven⟩

/-- Prose: never an exponent, a whole number has no point, and a tie goes up. -/
def plain : Layout := ⟨none, none, false, .up⟩

end Layout

/-- A bound that is not given holds. -/
def Layout.isPositional (l : Layout) (exponent : Int) : Bool :=
  (l.positionalFrom.all (· ≤ exponent)) && (l.positionalTo.all (exponent ≤ ·))

/-- The parts of a finite double under a layout. -/
def Layout.spell (l : Layout) (f : Float) : Numeral :=
  let bits := f.toBits.toNat
  let negative := Nat.pow 2 63 ≤ bits
  let b := Shortest.Binary.ofBits (bits % Nat.pow 2 63)
  if b.m = 0 then Numeral.positional negative [0] 0 l.keepsPoint
  else
    let p := b.shortest l.tie
    let ds := Digit.ofNat p.digits
    if l.isPositional (p.power + ds.length - 1) then
      Numeral.positional negative ds p.power l.keepsPoint
    else Numeral.scientific negative ds p.power

/-- The text of a finite double under a layout. -/
def Layout.text (l : Layout) (f : Float) : String :=
  String.ofList (l.spell f).text

end DealDesk
