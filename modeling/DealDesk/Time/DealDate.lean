import DealDesk.Time.Calendar
import DealDesk.Time.Field

/-!
# Dates until which an order is good

A date and a time of day as `2024/03/14 23:59`, with or without seconds.  The
reader is lenient: numbers need no padding, blanks may stand in front of them,
and the blank between date and time may be missing or repeated.
-/

namespace DealDesk
namespace DealDate

/-- Years that have a number for each of their days. -/
def isYearKnown (y : Int) : Bool :=
  -262143 ≤ y && y ≤ 262142

/-- Year, month and day of an existing date. -/
def readDate (cs : List Char) : Option (Date × List Char) := do
  let (y, r) ← Field.year cs
  let (m, r) ← Field.month (← Field.mark '/' r)
  let (d, r) ← Field.day (← Field.mark '/' r)
  if isYearKnown y && (Date.mk y m d).isReal then some (⟨y, m, d⟩, r) else none

/-- Hour and minute. -/
def readClock (cs : List Char) : Option ((Nat × Nat) × List Char) := do
  let (h, r) ← Field.hour cs
  let (m, r) ← Field.minute (← Field.mark ':' r)
  some ((h, m), r)

/-- The rest of a text after the minute: nothing, or a second and then nothing. -/
def endsAfterMinute (r : List Char) : Bool :=
  r.isEmpty ||
    match (Field.mark ':' r).bind Field.second with
    | some (_, r') => r'.isEmpty
    | none => false

/-- The text reads as a date and a time from its start to its end. -/
def accepts (s : String) : Bool :=
  match readDate s.toList with
  | none => false
  | some (_, r) =>
      match readClock (Text.trimFront r) with
      | none => false
      | some (_, r') => endsAfterMinute r'

end DealDate
end DealDesk
