import DealDesk.Number.Digit

/-!
# The shortest decimal of a double

A finite double is `m * 2 ^ q`.  The decimals that read back as it fill an
interval around it: half the gap to each neighbour, the ends included when `m`
is even.  Of all decimals in the interval, the shortest is the one on the
coarsest grid of powers of ten, and on that grid the nearest to the double.

Everything is exact arithmetic on natural numbers: the double and the two ends
of its interval are scaled until the powers of two and ten become whole.
-/

namespace DealDesk
namespace Shortest

/-- What to do with a value exactly between two points of the grid. -/
inductive Tie where
  | up
  | toEven

/-- A finite double without its sign. -/
structure Binary where
  /-- The significand. -/
  m : Nat
  /-- The power of two. -/
  q : Int
  /-- The gap below is half the gap above: the first significand of its power. -/
  narrowBelow : Bool

/-- The parts of the bits of a finite double, sign left out. -/
def Binary.ofBits (bits : Nat) : Binary :=
  let e : Nat := bits / Nat.pow 2 52 % 2048
  let f : Nat := bits % Nat.pow 2 52
  if e = 0 then ⟨f, -1074, false⟩
  else ⟨Nat.pow 2 52 + f, (e : Int) - 1075, f = 0 && 1 < e⟩

/-- A decimal `digits * 10 ^ power`. -/
structure Point where
  digits : Nat
  power : Int

/-- The double and its interval on the grid of one power of ten. -/
structure Scaled where
  low : Nat
  mid : Nat
  high : Nat
  /-- Distance of two grid points, in the unit of the other three. -/
  unit : Nat
  closed : Bool

/-- Quarter significands make the ends of the interval whole. -/
def Binary.scaled (b : Binary) (power : Int) : Scaled :=
  let up := Nat.pow 2 (b.q - 2).toNat * Nat.pow 10 (-power).toNat
  { low := (4 * b.m - if b.narrowBelow then 1 else 2) * up
    mid := 4 * b.m * up
    high := (4 * b.m + 2) * up
    unit := Nat.pow 2 (2 - b.q).toNat * Nat.pow 10 power.toNat
    closed := b.m % 2 = 0 }

/-- A grid point lies in the interval. -/
def Scaled.holds (s : Scaled) (n : Nat) : Bool :=
  if s.closed then s.low ≤ n * s.unit && n * s.unit ≤ s.high
  else s.low < n * s.unit && n * s.unit < s.high

/-- The nearest of the grid points in the interval, if there is one. -/
def Scaled.pick (s : Scaled) (tie : Tie) : Option Nat :=
  let below := s.mid / s.unit
  let rest := s.mid % s.unit
  match s.holds below, s.holds (below + 1) with
  | false, false => none
  | true, false => some below
  | false, true => some (below + 1)
  | true, true =>
      if 2 * rest < s.unit then some below
      else if s.unit < 2 * rest then some (below + 1)
      else
        match tie with
        | .up => some (below + 1)
        | .toEven => some (if below % 2 = 0 then below else below + 1)

/-- Grids from coarse to fine, until one has a point in the interval. -/
def search (b : Binary) (tie : Tie) : Nat → Int → Point
  | 0, power => ⟨0, power⟩
  | fuel + 1, power =>
      match (b.scaled power).pick tie with
      | some n => ⟨n, power⟩
      | none => search b tie fuel (power - 1)

/--
The shortest decimal of a nonzero double.  The coarsest grid tried is one power
of ten above the double, which `30103 / 100000` as the logarithm of two finds;
seventeen digits always suffice.
-/
def Binary.shortest (b : Binary) (tie : Tie) : Point :=
  search b tie 25 (((b.m.log2 : Int) + b.q) * 30103 / 100000 + 2)

end Shortest
end DealDesk
