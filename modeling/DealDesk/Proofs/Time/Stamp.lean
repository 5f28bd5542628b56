import DealDesk.Proofs.Time.Field
import DealDesk.Time.Stamp

/-!
# Timestamps read back

The fields of a timestamp are numbers with zeros in front, each with a mark after
it.  A field is read back whatever its mark is, as long as it has room for the
digits, and the parts of the instant follow from the fields by arithmetic.

**Results.** `Instant.ofStamp?_stamp`: what an instant is read as from its timestamp, with a
year of any size and any part of a second.  `Instant.told_eq_self_iff`: that is the instant
itself, in a leap second too, unless this stands where no calendar has one.
-/

namespace DealDesk

namespace Instant

/-- A year is read up to its mark. -/
theorem year_yearText
    (y : Int) {r : List Char} (hr : Digit.Ends r) :
    Field.year (yearText y ++ r) = some (y, r) := by
  rw [Field.year_eq_some_iff, yearText]
  have hvalue := Field.value_paddedDigits 4 y.natAbs
  have hsome := Field.paddedDigits_ne_nil 4 y.natAbs
  split
  · rename_i h
    have hdated := Field.dated_padded (show y.toNat < 10000 by omega) r
    rwa [Int.toNat_of_nonneg h.1] at hdated
  · rw [Field.padded_eq_text]
    split
    · rename_i h
      have hdated := Field.Dated.earlier (List.forall_mem_nil _) hsome hr
      rwa [hvalue, show -(y.natAbs : Int) = y by omega] at hdated
    · rename_i h
      have hdated := Field.Dated.later (List.forall_mem_nil _) hsome hr
      rwa [hvalue, show (y.natAbs : Int) = y by omega] at hdated

theorem readPart_padded
    {width n : Nat} (hw : 0 < width) (hw' : width ≤ 9) (h : n < Nat.pow 10 width) {r : List Char}
    (hr : Digit.Ends r) :
    readPart ('.' :: (Field.padded width n ++ r)) = some (n * Nat.pow 10 (9 - width), r) := by
  have hlen := Field.length_paddedDigits hw h
  have hvalue := Field.value_paddedDigits width n
  have hdigits := Field.digits_text (show (Field.paddedDigits width n).length ≤ 9 by omega)
    fun _ => hr
  have hrun : (Digit.run r).2 = r := by
    have := Digit.run_text_append [] hr
    rw [show Digit.text [] ++ r = r from rfl] at this
    rw [this]
  rw [readPart, Field.padded_eq_text, hdigits]
  cases hds : Field.paddedDigits width n with
  | nil => exact absurd hds (Field.paddedDigits_ne_nil width n)
  | cons d ds =>
      rw [hds] at hvalue hlen
      simp only [hvalue, hlen, hrun]

/-- The part of a second is read up to the end of the timestamp. -/
theorem readPart_partText
    {n : Nat} (h : n < nanosPerSecond) :
    readPart (partText n ++ ['Z']) = some (n, ['Z']) := by
  have hn : n < 1000000000 := h
  have hr : Digit.Ends ['Z'] := Digit.ends_cons (by decide) []
  rw [partText]
  split
  · rename_i hzero
    rw [hzero]
    rfl
  · split
    · have hread := readPart_padded (show 0 < 3 by decide) (by decide)
        (show n / 1000000 < 1000 by omega) hr
      have hwhole : n / 1000000 * Nat.pow 10 (9 - 3) = n := show n / 1000000 * 1000000 = n by omega
      rw [hwhole] at hread
      exact hread
    · split
      · have hread := readPart_padded (show 0 < 6 by decide) (by decide)
          (show n / 1000 < 1000000 by omega) hr
        have hwhole : n / 1000 * Nat.pow 10 (9 - 6) = n := show n / 1000 * 1000 = n by omega
        rw [hwhole] at hread
        exact hread
      · have hread := readPart_padded (show 0 < 9 by decide) (by decide)
          (show n < 1000000000 by omega) hr
        have hwhole : n * Nat.pow 10 (9 - 9) = n := Nat.mul_one n
        rw [hwhole] at hread
        exact hread

theorem daysInMonth_le (y : Int) (m : Nat) :
    daysInMonth y m ≤ 31 ∧ (0 < daysInMonth y m → 1 ≤ m ∧ m ≤ 12) := by
  rw [daysInMonth]
  split
  · exact ⟨by omega, fun h => absurd h (by omega)⟩
  · rename_i hm
    rcases Nat.lt_or_ge (m - 1) 12 with hlt | hge
    · have hmem : (monthLengths y).getD (m - 1) 0 ∈ monthLengths y := by
        rw [List.getD_eq_getElem?_getD,
          List.getElem?_eq_getElem (show m - 1 < (monthLengths y).length from hlt)]
        exact List.getElem_mem _
      have hall : ∀ l ∈ monthLengths y, l ≤ 31 := by
        intro l hl
        simp only [monthLengths] at hl
        split at hl <;> simp at hl <;> omega
      exact ⟨hall _ hmem, fun _ => by omega⟩
    · rw [List.getD_eq_getElem?_getD,
        List.getElem?_eq_none (show (monthLengths y).length ≤ m - 1 from hge), Option.getD_none]
      exact ⟨by omega, fun h => absurd h (by omega)⟩

theorem bounds_of_isReal
    {d : Date} (h : d.isReal = true) :
    (1 ≤ d.month ∧ d.month ≤ 12) ∧ 1 ≤ d.day ∧ d.day ≤ 31 := by
  simp only [Date.isReal, Bool.and_eq_true, decide_eq_true_eq] at h
  obtain ⟨hmax, hmonth⟩ := daysInMonth_le d.year d.month
  exact ⟨hmonth (by omega), h.1, by omega⟩

/-- The second of a timestamp, a leap second included. -/
theorem second_le (t : Instant) :
    t.second % 60 + (if t.isLeap then 1 else 0) ≤ 60 := by
  split
  · omega
  · omega

/-- A leap second stands behind the last second of a minute, where calendars have them. -/
def IsRegular (t : Instant) : Prop :=
  t.isLeap = true → t.second % 60 = 59

instance (t : Instant) : Decidable t.IsRegular :=
  inferInstanceAs (Decidable (_ → _))

/-- A leap second behind any other second is told as the second that follows. -/
def told (t : Instant) : Instant :=
  if h : t.isLeap = true ∧ t.second % 60 ≠ 59 then
    { t with
      second := t.second + 1
      nano := t.nano - nanosPerSecond
      second_lt := Nat.lt_of_le_of_ne t.second_lt fun hlast => h.2 (by
        simp only [secondsPerDay] at hlast
        omega)
      nano_lt := Nat.lt_of_le_of_lt (Nat.sub_le _ _) t.nano_lt }
  else t

/-- An instant is told as itself exactly if it is regular. -/
theorem told_eq_self_iff (t : Instant) :
    t.told = t ↔ t.IsRegular := by
  rw [told, IsRegular]
  split
  · rename_i h
    refine iff_of_false (fun heq => ?_) fun hregular => h.2 (hregular h.1)
    have hsecond := congrArg Instant.second heq
    simp at hsecond
  · rename_i h
    exact ⟨fun _ hleap => Decidable.not_not.1 fun hne => h ⟨hleap, hne⟩, fun _ => rfl⟩

theorem isRegular_of_not_isLeap
    {t : Instant} (h : t.isLeap = false) :
    t.IsRegular := by
  intro hleap
  rw [h] at hleap
  cases hleap

/-- What is told of an instant that is not regular. -/
theorem told_of_not_isRegular
    {t : Instant} (h : ¬ t.IsRegular) :
    nanosPerSecond ≤ t.nano ∧ t.second % 60 ≠ 59 ∧ t.told.day = t.day
      ∧ t.told.second = t.second + 1 ∧ t.told.nano = t.nano - nanosPerSecond := by
  rw [IsRegular, Classical.not_imp] at h
  have htold : t.told.day = t.day ∧ t.told.second = t.second + 1
      ∧ t.told.nano = t.nano - nanosPerSecond := by
    rw [told, dif_pos h]
    exact ⟨rfl, rfl, rfl⟩
  exact ⟨of_decide_eq_true h.1, h.2, htold⟩

/-- The seconds and nanoseconds that are read give those that are told. -/
theorem told_of_read (t : Instant) :
    let second : Nat := t.second % 60 + if t.isLeap then 1 else 0
    let leap : Nat := if second = 60 then 1 else 0
    (t.hour * 60 + t.minute) * 60 + second - leap = t.told.second
      ∧ t.nano % nanosPerSecond + leap * nanosPerSecond = t.told.nano
      ∧ t.told.day = t.day := by
  have hbound : t.second < 86400 := t.second_lt
  have hnano : t.nano < 2 * 1000000000 := t.nano_lt
  intro second leap
  by_cases hr : t.IsRegular
  · rw [(told_eq_self_iff t).2 hr]
    cases hleap : t.isLeap with
    | true =>
        have hlate : 1000000000 ≤ t.nano := of_decide_eq_true hleap
        have hlast : t.second % 60 = 59 := hr hleap
        simp only [second, leap, hleap, hlast, if_true, hour, minute, nanosPerSecond,
          and_true]
        exact ⟨by omega, by omega⟩
    | false =>
        have hearly : t.nano < 1000000000 := Nat.lt_of_not_le (of_decide_eq_false hleap)
        have hne : t.second % 60 ≠ 60 := by omega
        simp only [second, leap, hleap, Bool.false_eq_true, if_false, Nat.add_zero, hne, hour,
          minute, nanosPerSecond, and_true]
        exact ⟨by omega, by omega⟩
  · obtain ⟨hlate, hne, hday, hsecond, hpart⟩ := told_of_not_isRegular hr
    have hleap : t.isLeap = true := decide_eq_true hlate
    have hne' : t.second % 60 + 1 ≠ 60 := by omega
    rw [hday, hsecond, hpart]
    simp only [nanosPerSecond] at hlate
    simp only [second, leap, hleap, if_true, hne', if_false, hour, minute, nanosPerSecond,
      and_true]
    exact ⟨by omega, by omega⟩

/-- The parts that are read give the instant that is told. -/
theorem ofParts?_read (t : Instant) :
    let second : Nat := t.second % 60 + if t.isLeap then 1 else 0
    let leap : Nat := if second = 60 then 1 else 0
    let clock : Nat := (t.hour * 60 + t.minute) * 60 + second - leap
    let utc : Int := t.day * secondsPerDay + clock - 0 * 60
    ofParts? (utc / secondsPerDay) (utc % secondsPerDay).toNat
        (t.nano % nanosPerSecond + leap * nanosPerSecond)
      = some t.told := by
  have hlength : ((secondsPerDay : Nat) : Int) = 86400 := rfl
  have htold : t.told.second < 86400 := t.told.second_lt
  intro second leap clock utc
  obtain ⟨hclock, hpart, hsame⟩ := told_of_read t
  have hutc : utc = t.told.day * 86400 + t.told.second := by
    simp only [utc, clock, second, leap, hclock, hlength, hsame]
    omega
  have hday : utc / (secondsPerDay : Int) = t.told.day := by
    rw [hutc, hlength]
    omega
  have hrest : (utc % (secondsPerDay : Int)).toNat = t.told.second := by
    rw [hutc, hlength]
    omega
  rw [hday, hrest, hpart, ofParts?,
    dif_pos ⟨t.told.day_mem, t.told.second_lt, t.told.nano_lt⟩]

/-- An instant is read from its timestamp as the one that is told. -/
theorem ofStamp?_stamp (t : Instant) :
    ofStamp? t.stamp = some t.told := by
  have hreal : t.date.isReal = true := Date.isReal_ofNumber t.day
  have hnumber : t.date.number = t.day := Date.number_ofNumber t.day
  obtain ⟨⟨hm, hm'⟩, hd, hd'⟩ := bounds_of_isReal hreal
  have hlt : t.second < 86400 := t.second_lt
  have hyear := fun r => year_yearText t.date.year (Digit.ends_cons (c := '-') (by decide) r)
  have hmonth := Field.bounded_padded hm hm' (by decide)
  have hday := Field.bounded_padded hd hd' (by decide)
  have hhour := Field.bounded_padded (Nat.zero_le t.hour)
    (show t.hour ≤ 23 by simp only [hour]; omega) (by decide)
  have hminute := Field.bounded_padded (Nat.zero_le t.minute)
    (show t.minute ≤ 59 by simp only [minute]; omega) (by decide)
  have hsecond := Field.bounded_padded (Nat.zero_le _) (second_le t) (by decide)
  have hpart := readPart_partText (show t.nano % nanosPerSecond < nanosPerSecond from
    Nat.mod_lt _ (by decide))
  have hdash : ∀ r, Text.trimFront ('-' :: r) = '-' :: r :=
    fun r => List.dropWhile_cons_of_neg (by decide)
  have hcolon : ∀ r, Text.trimFront (':' :: r) = ':' :: r :=
    fun r => List.dropWhile_cons_of_neg (by decide)
  have hz : Text.trimFront ['Z'] = ['Z'] := by decide
  have hoffset : readOffset ['Z'] = some (0, []) := by decide
  have hjoint : ∀ r, readJoint ('T' :: r) = some r := fun r => by simp [readJoint]
  have hparts := ofParts?_read t
  have hbind {α β : Type} (a : α) (f : α → Option β) : (some a >>= f) = f a := rfl
  simp only [ofStamp?, stamp, stampChars, String.toList_ofList, dateText, clockText,
    List.append_assoc, List.cons_append]
  -- The date, the clock, and what is behind the seconds.
  rw [hyear, hbind, hdash, Field.mark_cons, hbind, Field.month, hmonth, hbind, hdash,
    Field.mark_cons, hbind, Field.day, hday, hbind]
  rw [hjoint, hbind, Field.hour, hhour, hbind, hcolon, Field.mark_cons, hbind, Field.minute,
    hminute, hbind, hcolon, Field.mark_cons, hbind, Field.second, hsecond, hbind]
  rw [hpart, hbind, hz, hoffset, hbind]
  have hdate : Date.mk t.date.year t.date.month t.date.day = t.date := rfl
  simp only [hdate, hnumber, hreal]
  rw [if_neg (by simp [Text.trimFront, t.day_mem.1, t.day_mem.2])]
  exact hparts

end Instant
end DealDesk
