import DealDesk.Number.Digit

/-!
# Spans of time

A span is a signed number of nanoseconds.  It is shown as an ISO 8601 duration
in prose and by its parts in diagnostics.
-/

namespace DealDesk

/-- Nanoseconds in a second. -/
abbrev nanosPerSecond : Nat := 1000000000

/-- A signed length of time. -/
structure Span where
  nanos : Int
deriving DecidableEq

namespace Span

def ofSeconds (n : Int) : Span := ⟨n * nanosPerSecond⟩

def ofMinutes (n : Int) : Span := ofSeconds (n * 60)

/-- Whole seconds, a part of one cut off towards zero. -/
def seconds (d : Span) : Int :=
  d.nanos.tdiv nanosPerSecond

/-- Whole minutes, a part of one cut off towards zero. -/
def minutes (d : Span) : Int :=
  d.seconds.tdiv 60

/-- Whole milliseconds, a part of one cut off towards zero. -/
def millis (d : Span) : Int :=
  d.nanos.tdiv 1000000

/-- Nine digits of a part of a second, the trailing zeros cut. -/
def fractionText (nanos : Nat) : List Char :=
  let ds := Digit.ofNat (nanosPerSecond + nanos)
  Digit.text ((ds.drop 1).reverse.dropWhile (· = 0)).reverse

/-- The duration of ISO 8601 in seconds, with a sign in front of a negative one. -/
def text (d : Span) : String :=
  let n := d.nanos.natAbs
  let sign := if d.nanos < 0 then "-" else ""
  if n = 0 then "P0D"
  else
    let whole := natText (n / nanosPerSecond)
    let part := n % nanosPerSecond
    let places := if part = 0 then [] else '.' :: fractionText part
    sign ++ "PT" ++ String.ofList (whole ++ places) ++ "S"

/-- The whole seconds below the span and the nanoseconds above them. -/
def diagnostic (d : Span) : String :=
  "TimeDelta \x7b secs: " ++ String.ofList (intText (d.nanos / nanosPerSecond))
    ++ ", nanos: " ++ String.ofList (intText (d.nanos % nanosPerSecond)) ++ " \x7d"

@[simp] theorem seconds_ofSeconds (n : Int) :
    (ofSeconds n).seconds = n := by
  simp [seconds, ofSeconds]

example : (ofSeconds 32400).text = "PT32400S" := by decide +kernel

example : (Span.mk 1500000000).text = "PT1.5S" := by decide +kernel

end Span
end DealDesk
