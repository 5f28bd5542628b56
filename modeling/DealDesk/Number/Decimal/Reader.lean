import DealDesk.Number.Decimal

/-!
# Reading decimals

The decimal that a text spells: an optional sign, digits with at most one point
and with low lines after the first digit, or such a text with an exponent of at
most 28.

Places past the twenty-eighth, and places for which the mantissa has no room,
are rounded away at the first of them, a half upwards.  A low line behind the
twenty-eighth place hides this limit from the digit after it.
-/

namespace DealDesk
namespace Decimal

/-- Characters that may stand after the last digit that counts. -/
def isIgnorable (c : Char) : Bool :=
  c.isDigit || c == '_'

/--
Mantissa and scale once the digit `dropped` finds no room.  If rounding up
overflows the mantissa, one more digit is rounded away.
-/
def closed (m s dropped : Nat) (rest : List Char) : Option (Nat × Nat) :=
  if !rest.all isIgnorable then none
  else if dropped < 5 then some (m, s)
  else if m + 1 < Nat.pow 2 96 then some (m + 1, s)
  else if s = 0 then none
  else some ((m + 5) / 10, s - 1)

/-- Mantissas from here on are read with room for 96 bits; those below, with room for 64. -/
def wide : Nat := Nat.pow 2 64 / 10 - 255

/--
Mantissa and scale of the rest of a text, after `m` with `s` places.  A low line
after the last place ends a narrow mantissa; a wide one takes the digit after it
as one more place, if there is room for it.  `bridged` tells that the character
before was a low line.
-/
def scan (point seen bridged : Bool) (m s : Nat) : List Char → Option (Nat × Nat)
  | [] => if seen then some (m, s) else none
  | c :: r =>
      match Digit.ofChar? c with
      | some d =>
          if point && 28 ≤ s && !bridged then closed m s d.val r
          else if 10 * m + d.val < Nat.pow 2 96 then
            scan point true false (10 * m + d.val) (if point then s + 1 else s) r
          else if point then closed m s d.val r
          else none
      | none =>
          if c = '.' && !point then scan true seen false m s r
          else if c = '_' && seen then
            if point && 28 ≤ s && m / 10 < wide then closed m s 0 r
            else scan point seen true m s r
          else none

/-- The number of places that a decimal has room for; past the last one they start again. -/
def placed (s : Nat) : Nat := s % 29

/-- A sign in front of a text, and what follows it. -/
def splitSign : List Char → Bool × List Char
  | '-' :: r => (true, r)
  | '+' :: r => (false, r)
  | cs => (false, cs)

/-- A decimal without an exponent. -/
def ofPlain? (cs : List Char) : Option Decimal := do
  let (negative, digits) := splitSign cs
  let (m, s) ← scan false false false 0 0 digits
  ofParts? negative m (placed s)

/-- A number of digits only, with an optional plus sign. -/
def exponent? (cs : List Char) : Option Nat :=
  let ds := match cs with
    | '+' :: r => r
    | _ => cs
  match Digit.run ds with
  | (d :: r, []) => some (Digit.value (d :: r))
  | _ => none

/-- A mantissa that loses `n` places, a half of the last of them rounded up. -/
def rounded (m n : Nat) : Nat :=
  if n = 0 then m
  else m / Nat.pow 10 n + (if m / Nat.pow 10 (n - 1) % 10 < 5 then 0 else 1)

/--
The decimal moved by an exponent of at most 28.  Downwards it gains places, and
those past the twenty-eighth are rounded away; upwards it loses places, and then
its mantissa grows, which makes it whole.
-/
def moved? (d : Decimal) (down : Bool) (e : Nat) : Option Decimal :=
  if down then
    if 28 < e then none
    else
      parts? (rounded d.mantissa (d.scale + e - 28)) (min 28 (d.scale + e))
  else if e ≤ d.scale then parts? d.mantissa (d.scale - e)
  else if 28 < e then none
  else parts? (d.mantissa * Nat.pow 10 (e - d.scale)) 0
where
  parts? (m s : Nat) : Option Decimal :=
    if hm : m < Nat.pow 2 96 then
      if hs : s ≤ 28 then some ⟨d.negative, m, s, hm, hs⟩ else none
    else none

/-- A decimal with an exponent after the first `e` or `E`. -/
def ofScientific? (cs : List Char) : Option Decimal := do
  let isMark := fun c => c == 'e' || c == 'E'
  let base := cs.takeWhile fun c => !isMark c
  match cs.dropWhile fun c => !isMark c with
  | [] => none
  | _ :: r =>
      let d ← ofPlain? base
      match r with
      | '-' :: r' => moved? d true (← exponent? r')
      | _ => moved? d false (← exponent? r)

/-- The decimal that a text spells. -/
def ofText? (s : String) : Option Decimal :=
  ofPlain? s.toList <|> ofScientific? s.toList

/-- The decimal of the plain text of a double. -/
def ofFloat? (f : Float) : Option Decimal :=
  ofPlain? (Layout.plain.spell f).text

end Decimal
end DealDesk
