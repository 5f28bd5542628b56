import DealDesk.Number.Numeral

/-!
# The value of a numeral

A numeral without point and exponent that fits 64 bits is a whole number, any
other a double.  A double is read in one pass: the digits are gathered in a
64-bit significand, as many as it has room for, and one multiplication or
division by a power of ten finishes the work.  The result is therefore not
always the double nearest to the numeral.
-/

namespace DealDesk

/-- What a numeral denotes. -/
inductive Number where
  | whole (n : Int)
  | real (f : Float)

namespace Number

/-- The powers of ten that doubles reach. -/
def powerOfTen (n : Nat) : Float :=
  Float.ofScientific 1 false n

/-- Digits join the significand while it stays below `2 ^ 64`; the rest is given back. -/
def gather (s : Nat) : List Digit → Nat × List Digit
  | [] => (s, [])
  | d :: r => if 10 * s + d.val < Nat.pow 2 64 then gather (10 * s + d.val) r else (s, d :: r)

/-- A double divided by a power of ten, in steps of at most `10 ^ 308`. -/
def shrink : Nat → Float → Nat → Float
  | 0, _, _ => 0.0
  | steps + 1, f, e =>
      if e ≤ 308 then f / powerOfTen e
      else if f == 0.0 then f
      else shrink steps (f / powerOfTen 308) (e - 308)

/--
A significand times a power of ten, unless it is beyond the doubles.  After three
steps down nothing is left of a 64-bit significand.
-/
def scaled (s : Nat) (e : Int) : Option Float :=
  let f := (UInt64.ofNat s).toFloat
  match e with
  | .ofNat n =>
      if n ≤ 308 then
        let g := f * powerOfTen n
        if g.isInf then none else some g
      else if s = 0 then some f
      else none
  | .negSucc n => some (shrink 3 f (n + 1))

/-- The double of a numeral, unless it is beyond the doubles. -/
def double? (n : Numeral) : Option Float :=
  let (s, lost) := gather 0 n.whole
  let (s, ignored) := gather s n.fraction
  let kept : Nat := n.fraction.length - ignored.length
  let written : Int := match n.exponent with
    | none => 0
    | some e => e.toInt
  (scaled s ((lost.length : Int) - kept + written)).map fun f =>
    if n.negative then -f else f

/-- The number of a numeral, unless it is beyond the doubles. -/
def ofNumeral? (n : Numeral) : Option Number :=
  let v := Digit.value n.whole
  if n.fraction.isEmpty && n.exponent.isNone && !n.negative && v < Nat.pow 2 64 then
    some (.whole v)
  else if n.fraction.isEmpty && n.exponent.isNone && n.negative && 0 < v && v ≤ Nat.pow 2 63 then
    some (.whole (-(v : Int)))
  else (double? n).map .real

/-- The number as a double. -/
def toFloat : Number → Float
  | .whole (.ofNat n) => (UInt64.ofNat n).toFloat
  | .whole (.negSucc n) => -(UInt64.ofNat (n + 1)).toFloat
  | .real f => f

end Number
end DealDesk
