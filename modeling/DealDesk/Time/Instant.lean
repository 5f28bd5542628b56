import DealDesk.Time.Calendar
import DealDesk.Time.Span

/-!
# Instants

A moment of Coordinated Universal Time: a day, a second of that day and the
nanoseconds since that second began.  In a leap second the nanoseconds run on to a
second thousand million.  A calendar has leap seconds only behind the last second of a
minute, but a clock can count on behind any second.

**Results.** Adding a span to an instant outside leap seconds is addition of
nanoseconds, and the order of such instants is the order of their nanoseconds.
-/

namespace DealDesk

/-- Seconds in a day. -/
abbrev secondsPerDay : Nat := 86400

/-- The first day that has a number: 1 January of the year -262143. -/
def firstDay : Int := -96465292

/-- The last day that has a number: 31 December of the year 262142. -/
def lastDay : Int := 95026236

/-- A moment of Coordinated Universal Time. -/
structure Instant where
  day : Int
  second : Nat
  nano : Nat
  day_mem : firstDay ≤ day ∧ day ≤ lastDay
  second_lt : second < secondsPerDay
  nano_lt : nano < 2 * nanosPerSecond
deriving DecidableEq

namespace Instant

/-- An instant from its parts, if there is one. -/
def ofParts? (day : Int) (second nano : Nat) : Option Instant :=
  if h : (firstDay ≤ day ∧ day ≤ lastDay) ∧ second < secondsPerDay
      ∧ nano < 2 * nanosPerSecond then
    some ⟨day, second, nano, h.1, h.2.1, h.2.2⟩
  else none

/-- The instant lies in a leap second. -/
def isLeap (t : Instant) : Bool :=
  nanosPerSecond ≤ t.nano

/-- Nanoseconds since the epoch, a leap second counted with the second before it. -/
def ticks (t : Instant) : Int :=
  (t.day * secondsPerDay + t.second) * nanosPerSecond + t.nano

/-- The instant outside leap seconds with that many nanoseconds since the epoch. -/
def ofTicks? (n : Int) : Option Instant :=
  let s := n / nanosPerSecond
  ofParts? (s / secondsPerDay) (s % secondsPerDay).toNat (n % nanosPerSecond).toNat

/--
The instant a span later, if there is one.  A span that leaves a leap second
forwards starts from the same part of the second before it; one that leaves it
backwards starts from the same part of the second after it.
-/
def add? (t : Instant) (d : Span) : Option Instant :=
  let s := d.seconds
  let part := d.nanos.tmod nanosPerSecond
  if t.isLeap then
    if 0 < s || (0 < part && 2 * (nanosPerSecond : Int) ≤ t.nano + part) then
      ofTicks? (t.ticks - nanosPerSecond + d.nanos)
    else if s < 0 then ofTicks? (t.ticks + d.nanos)
    else ofParts? t.day t.second (t.nano + part).toNat
  else ofTicks? (t.ticks + d.nanos)

/-- The time from one instant to a later one; a leap second between them counts. -/
def since (t u : Instant) : Span :=
  let seconds := (t.day - u.day) * secondsPerDay + ((t.second : Int) - u.second)
  let leap :=
    if u.second < t.second && u.isLeap then 1
    else if t.second < u.second && t.isLeap then -1
    else 0
  ⟨(seconds + leap) * nanosPerSecond + ((t.nano : Int) - u.nano)⟩

/-- By day, then by second, then by nanosecond. -/
def before (t u : Instant) : Bool :=
  t.day < u.day || (t.day = u.day
    && (t.second < u.second || (t.second = u.second && t.nano < u.nano)))

/-- The date of the instant. -/
def date (t : Instant) : Date :=
  Date.ofNumber t.day

def hour (t : Instant) : Nat := t.second / 3600

def minute (t : Instant) : Nat := t.second / 60 % 60

/-- Outside leap seconds the order of instants is the order of their nanoseconds. -/
theorem before_iff
    {t u : Instant} (ht : t.isLeap = false) (hu : u.isLeap = false) :
    t.before u = true ↔ t.ticks < u.ticks := by
  have := t.second_lt
  have := u.second_lt
  simp only [isLeap, decide_eq_false_iff_not] at ht hu
  simp only [before, ticks, Bool.or_eq_true, Bool.and_eq_true, decide_eq_true_eq]
  simp only [secondsPerDay, nanosPerSecond] at *
  omega

theorem ticks_ofTicks?
    {n : Int} {t : Instant} (h : ofTicks? n = some t) :
    t.ticks = n ∧ t.isLeap = false := by
  simp only [ofTicks?, ofParts?] at h
  split at h
  · injection h with h
    subst h
    simp only [ticks, isLeap, decide_eq_false_iff_not]
    simp only [secondsPerDay, nanosPerSecond] at *
    omega
  · simp at h

/-- Outside leap seconds adding a span is addition of nanoseconds. -/
theorem add?_eq
    {t : Instant} (ht : t.isLeap = false) (d : Span) :
    t.add? d = ofTicks? (t.ticks + d.nanos) := by
  simp [add?, ht]

example : firstDay = (Date.mk (-262143) 1 1).number := by decide

example : lastDay = (Date.mk 262142 12 31).number := by decide

end Instant
end DealDesk
