import DealDesk.Time.Field
import DealDesk.Time.Instant

/-!
# Timestamps

Instants as text: `2024-03-13T09:00:00Z`, with 0, 3, 6 or 9 digits of a part of
a second and with a sign on a year that has not four digits.  Reading is lenient
about padding and blanks and knows offsets from Coordinated Universal Time.
-/

namespace DealDesk
namespace Instant

/-- Four digits, or a sign and at least four digits for a year that needs them. -/
def yearText (y : Int) : List Char :=
  if 0 ≤ y ∧ y ≤ 9999 then Field.padded 4 y.toNat
  else (if y < 0 then '-' else '+') :: Field.padded 4 y.natAbs

/-- A part of a second, in thousandths, millionths or thousand millionths. -/
def partText (nanos : Nat) : List Char :=
  if nanos = 0 then []
  else if nanos % 1000000 = 0 then '.' :: Field.padded 3 (nanos / 1000000)
  else if nanos % 1000 = 0 then '.' :: Field.padded 6 (nanos / 1000)
  else '.' :: Field.padded 9 nanos

/-- Year, month and day. -/
def dateText (t : Instant) : List Char :=
  yearText t.date.year ++ '-' :: Field.padded 2 t.date.month
    ++ '-' :: Field.padded 2 t.date.day

/-- Hour, minute and second; a leap second is the second 60. -/
def clockText (t : Instant) : List Char :=
  let leap := if t.isLeap then 1 else 0
  Field.padded 2 t.hour ++ ':' :: Field.padded 2 t.minute
    ++ ':' :: Field.padded 2 (t.second % 60 + leap)
    ++ partText (t.nano % nanosPerSecond)

/-- The timestamp of documents. -/
def stampChars (t : Instant) : List Char :=
  t.dateText ++ 'T' :: t.clockText ++ ['Z']

/-- The timestamp of documents, as a text. -/
def stamp (t : Instant) : String :=
  String.ofList t.stampChars

/-- The timestamp of messages. -/
def prose (t : Instant) : String :=
  String.ofList (t.dateText ++ ' ' :: t.clockText) ++ " UTC"

/-- Hour and minute only. -/
def hourAndMinute (t : Instant) : String :=
  String.ofList (Field.padded 2 t.hour ++ ':' :: Field.padded 2 t.minute)

/-- Digits of a part of a second; the tenth and later ones are not read. -/
def readPart : List Char → Option (Nat × List Char)
  | '.' :: r =>
      match Field.digits 9 r with
      | ([], _) => none
      | (d :: ds, r') =>
          some (Digit.value (d :: ds) * Nat.pow 10 (9 - (d :: ds).length), (Digit.run r').2)
  | r => some (0, r)

/-- Two digits in a row, the first of them at most `high`. -/
def readPair (high : Nat) : List Char → Option (Nat × List Char)
  | a :: b :: r => do
      let x ← Digit.ofChar? a
      let y ← Digit.ofChar? b
      if x.val ≤ high then some (10 * x.val + y.val, r) else none
  | _ => none

/-- Minutes of an offset: hours and minutes, with colons or blanks between them or not. -/
def readOffsetDigits (cs : List Char) : Option (Nat × List Char) := do
  let (h, r) ← readPair 9 cs
  let (m, r) ← readPair 5 (r.dropWhile fun c => c == ':' || Text.isBlank c)
  some (60 * h + m, r)

/-- Minutes ahead of Coordinated Universal Time. -/
def readOffset : List Char → Option (Int × List Char)
  | [] => none
  | c :: r =>
      if c = 'Z' ∨ c = 'z' then some (0, r)
      else if (c :: r.take 2).map Char.toLower = ['u', 't', 'c'] then some (0, r.drop 2)
      else if c = '+' then (readOffsetDigits r).map fun p => ((p.1 : Int), p.2)
      else if c = '-' ∨ c.toNat = 8722 then
        (readOffsetDigits r).map fun p => (-(p.1 : Int), p.2)
      else none

/-- The mark between date and clock. -/
def readJoint : List Char → Option (List Char)
  | [] => none
  | c :: r => if c = 'T' ∨ c = 't' ∨ c = ' ' then some r else none

/-- The instant that a text spells. -/
def ofStamp? (s : String) : Option Instant := do
  let (year, r) ← Field.year s.toList
  let (month, r) ← Field.month (← Field.mark '-' (Text.trimFront r))
  let (day, r) ← Field.day (← Field.mark '-' (Text.trimFront r))
  let (hour, r) ← Field.hour (← readJoint r)
  let (minute, r) ← Field.minute (← Field.mark ':' (Text.trimFront r))
  let (second, r) ← Field.second (← Field.mark ':' (Text.trimFront r))
  let (part, r) ← readPart r
  let (offset, r) ← readOffset (Text.trimFront r)
  let date : Date := ⟨year, month, day⟩
  let leap : Nat := if second = 60 then 1 else 0
  let clock : Nat := (hour * 60 + minute) * 60 + second - leap
  let utc := date.number * secondsPerDay + clock - offset * 60
  if !(Text.trimFront r).isEmpty || !date.isReal || 1440 ≤ offset.natAbs
      || !(firstDay ≤ date.number && date.number ≤ lastDay) then none
  else
    ofParts? (utc / secondsPerDay) (utc % secondsPerDay).toNat
      (part + leap * nanosPerSecond)

end Instant
end DealDesk
