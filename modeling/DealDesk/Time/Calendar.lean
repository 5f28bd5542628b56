/-!
# The calendar

Days of the proleptic Gregorian calendar, numbered from 1 January 1970.

**Results.** `Date.ofNumber` finds an existing date, and the number of that date
is the number it was found for.
-/

namespace DealDesk

/-- Every fourth year is a leap year, but of the full centuries only every fourth. -/
def isLeapYear (y : Int) : Bool :=
  y % 4 = 0 && (y % 100 ≠ 0 || y % 400 = 0)

/-- The lengths of the twelve months of a year. -/
def monthLengths (y : Int) : List Nat :=
  [31, if isLeapYear y then 29 else 28, 31, 30, 31, 30, 31, 31, 30, 31, 30, 31]

/-- The length of a month, 0 for a month that does not exist. -/
def daysInMonth (y : Int) (m : Nat) : Nat :=
  if m = 0 then 0 else (monthLengths y).getD (m - 1) 0

/-- The days of a row of months. -/
def daysOf : List Nat → Nat
  | [] => 0
  | l :: r => l + daysOf r

/-- Days from 1 January of the year 1 to 1 January of a year. -/
def daysBeforeYear (y : Int) : Int :=
  365 * (y - 1) + (y - 1) / 4 - (y - 1) / 100 + (y - 1) / 400

/-- Days from 1 January of the year 1 to 1 January 1970. -/
def daysBeforeEpoch : Int := 719162

/-- A year, a month and a day of the month. -/
structure Date where
  year : Int
  month : Nat
  day : Nat
deriving DecidableEq

namespace Date

/-- The month and the day are there in that year. -/
def isReal (d : Date) : Bool :=
  1 ≤ d.day && d.day ≤ daysInMonth d.year d.month

/-- Days since 1 January 1970. -/
def number (d : Date) : Int :=
  daysBeforeYear d.year + daysOf ((monthLengths d.year).take (d.month - 1))
    + (d.day - 1) - daysBeforeEpoch

/-- The year in which a day lies, the day counted from 1 January of the year 1. -/
def yearOf (z : Int) : Int :=
  let guess := z * 400 / 146097 + 1
  if z < daysBeforeYear guess then guess - 1
  else if daysBeforeYear (guess + 1) ≤ z then guess + 1
  else guess

/-- Month and day from the lengths of the months and the days gone by. -/
def monthAndDay : List Nat → Nat → Nat → Nat × Nat
  | [], m, o => (m, o + 1)
  | l :: r, m, o => if o < l then (m, o + 1) else monthAndDay r (m + 1) (o - l)

/-- The date with a number. -/
def ofNumber (n : Int) : Date :=
  let z := n + daysBeforeEpoch
  let y := yearOf z
  let md := monthAndDay (monthLengths y) 1 (z - daysBeforeYear y).toNat
  ⟨y, md.1, md.2⟩

theorem yearOf_bounds (z : Int) :
    daysBeforeYear (yearOf z) ≤ z ∧ z < daysBeforeYear (yearOf z + 1) := by
  simp only [yearOf]
  split
  · rename_i h
    simp only [daysBeforeYear] at *
    omega
  · split
    · rename_i h₁ h₂
      simp only [daysBeforeYear] at *
      omega
    · rename_i h₁ h₂
      simp only [daysBeforeYear] at *
      omega

theorem isLeapYear_iff (y : Int) :
    isLeapYear y = true ↔ y % 4 = 0 ∧ (y % 100 ≠ 0 ∨ y % 400 = 0) := by
  simp [isLeapYear]

theorem sum_monthLengths (y : Int) :
    daysBeforeYear (y + 1) = daysBeforeYear y + daysOf (monthLengths y) := by
  have hleap := isLeapYear_iff y
  cases h : isLeapYear y
  · have hnot : ¬ (y % 4 = 0 ∧ (y % 100 ≠ 0 ∨ y % 400 = 0)) := by
      rw [← hleap, h]
      simp
    simp only [daysBeforeYear, monthLengths, h, daysOf]
    simp only [Bool.false_eq_true, if_false]
    omega
  · have hyes := hleap.1 h
    simp only [daysBeforeYear, monthLengths, h, daysOf]
    simp only [if_true]
    omega

theorem monthAndDay_fst_ge (ls : List Nat) (m o : Nat) :
    m ≤ (monthAndDay ls m o).1 := by
  induction ls generalizing m o with
  | nil => simp [monthAndDay]
  | cons l r ih =>
      unfold monthAndDay
      split
      · simp
      · exact Nat.le_trans (Nat.le_succ m) (ih (m + 1) (o - l))

theorem monthAndDay_sum
    (ls : List Nat) (o m : Nat) (h : o < daysOf ls) :
    daysOf (ls.take ((monthAndDay ls m o).1 - m)) + (monthAndDay ls m o).2 = o + 1
      ∧ 1 ≤ (monthAndDay ls m o).2
      ∧ (monthAndDay ls m o).2 ≤ ls.getD ((monthAndDay ls m o).1 - m) 0 := by
  induction ls generalizing m o with
  | nil => exact absurd h (Nat.not_lt_zero o)
  | cons l r ih =>
      unfold monthAndDay
      split
      · simp [daysOf]
        omega
      · rename_i hl
        simp only [daysOf] at h
        have hge := monthAndDay_fst_ge r (m + 1) (o - l)
        have := ih (o - l) (m + 1) (by omega)
        have hk : (monthAndDay r (m + 1) (o - l)).1 - m
            = ((monthAndDay r (m + 1) (o - l)).1 - (m + 1)) + 1 := by
          omega
        rw [hk]
        simp only [List.take_succ_cons, daysOf, List.getD_cons_succ]
        omega

theorem number_ofNumber (n : Int) :
    (ofNumber n).number = n := by
  have hb := yearOf_bounds (n + daysBeforeEpoch)
  have hs := sum_monthLengths (yearOf (n + daysBeforeEpoch))
  have hm := monthAndDay_sum
    (monthLengths (yearOf (n + daysBeforeEpoch)))
    (n + daysBeforeEpoch - daysBeforeYear (yearOf (n + daysBeforeEpoch))).toNat
    1 (by omega)
  simp only [number, ofNumber]
  omega

theorem isReal_ofNumber (n : Int) :
    (ofNumber n).isReal = true := by
  have hb := yearOf_bounds (n + daysBeforeEpoch)
  have hs := sum_monthLengths (yearOf (n + daysBeforeEpoch))
  have hm := monthAndDay_sum
    (monthLengths (yearOf (n + daysBeforeEpoch)))
    (n + daysBeforeEpoch - daysBeforeYear (yearOf (n + daysBeforeEpoch))).toNat
    1 (by omega)
  have hge := monthAndDay_fst_ge (monthLengths (yearOf (n + daysBeforeEpoch))) 1
    (n + daysBeforeEpoch - daysBeforeYear (yearOf (n + daysBeforeEpoch))).toNat
  have hday : (ofNumber n).day
      ≤ daysInMonth (ofNumber n).year (ofNumber n).month := by
    unfold daysInMonth
    rw [if_neg (by simp only [ofNumber]; omega)]
    exact hm.2.2
  simp only [isReal, Bool.and_eq_true, decide_eq_true_eq]
  exact ⟨hm.2.1, hday⟩

end Date
end DealDesk
