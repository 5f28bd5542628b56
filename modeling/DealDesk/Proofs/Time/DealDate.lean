import DealDesk.Proofs.Time.Stamp
import DealDesk.Time.DealDate

/-!
# Texts that read as a date

The reader of dates goes through a text once and takes what each field admits.  What it
accepts is a language with a grammar: numbers with their marks, blanks where a number may
have them, and no digit left over behind a number that has room for one.  The numbers must
name a day of the calendar and a time of day.

**Results.** `Date.isReal_iff`: the days of the calendar.  `accepts_iff`: the texts that are
accepted are those that spell a day and a time that are there.  `Reads.unique`: a text spells
one reading at most.  `accepts_exactly`: every padded text of a day and a time is among them.
-/

namespace DealDesk

/-! ### Days of the calendar -/

/-- The day is there: its month has it, and 29 February is a day of leap years. -/
inductive Date.InCalendar (d : Date) : Prop
  | long
      (hmonth : d.month ∈ [1, 3, 5, 7, 8, 10, 12])
      (hday : 1 ≤ d.day ∧ d.day ≤ 31)
  | short
      (hmonth : d.month ∈ [4, 6, 9, 11])
      (hday : 1 ≤ d.day ∧ d.day ≤ 30)
  | february
      (hmonth : d.month = 2)
      (hday : 1 ≤ d.day ∧ d.day ≤ 28)
  | leap
      (hmonth : d.month = 2)
      (hday : d.day = 29)
      (hyear : 4 ∣ d.year ∧ (100 ∣ d.year → 400 ∣ d.year))

theorem isLeapYear_iff_dvd (y : Int) :
    isLeapYear y = true ↔ 4 ∣ y ∧ (100 ∣ y → 400 ∣ y) := by
  rw [Date.isLeapYear_iff]
  omega

theorem daysInMonth_of_long (y : Int) :
    ∀ m ∈ [1, 3, 5, 7, 8, 10, 12], daysInMonth y m = 31 := by
  simp [daysInMonth, monthLengths]

theorem daysInMonth_of_short (y : Int) :
    ∀ m ∈ [4, 6, 9, 11], daysInMonth y m = 30 := by
  simp [daysInMonth, monthLengths]

theorem daysInMonth_two (y : Int) :
    daysInMonth y 2 = if isLeapYear y then 29 else 28 := rfl

theorem Date.isReal_iff (d : Date) :
    d.isReal = true ↔ d.InCalendar := by
  have hleap := isLeapYear_iff_dvd d.year
  rw [isReal, Bool.and_eq_true, decide_eq_true_iff, decide_eq_true_iff]
  constructor
  · rintro ⟨hlow, hhigh⟩
    have hmonths : ∀ m ≤ 12, 1 ≤ m →
        m ∈ [1, 3, 5, 7, 8, 10, 12] ∨ m ∈ [4, 6, 9, 11] ∨ m = 2 := by decide
    obtain ⟨hfirst, hlast⟩ := (Instant.daysInMonth_le d.year d.month).2 (by omega)
    obtain hm | hm | hm := hmonths d.month hlast hfirst
    · rw [daysInMonth_of_long d.year d.month hm] at hhigh
      exact .long hm ⟨hlow, hhigh⟩
    · rw [daysInMonth_of_short d.year d.month hm] at hhigh
      exact .short hm ⟨hlow, hhigh⟩
    · rw [hm, daysInMonth_two] at hhigh
      by_cases hday : d.day ≤ 28
      · exact .february hm ⟨hlow, hday⟩
      · split at hhigh
        · rename_i hy
          exact .leap hm (by omega) (hleap.1 hy)
        · exact absurd hhigh hday
  · intro h
    cases h with
    | long hm hday => rwa [daysInMonth_of_long d.year d.month hm]
    | short hm hday => rwa [daysInMonth_of_short d.year d.month hm]
    | february hm hday =>
        rw [hm, daysInMonth_two]
        split <;> omega
    | leap hm hday hyear =>
        rw [hm, daysInMonth_two, if_pos (hleap.2 hyear)]
        omega

namespace DealDate

open DealDesk.Field

/-! ### The grammar -/

/-- A date and a time of day, to the minute or to the second. -/
structure Reading where
  date : Date
  hour : Nat
  minute : Nat
  second : Option Nat

/-- The day and the time are there; the second 60 is a leap second. -/
structure Reading.IsThere (t : Reading) : Prop where
  year : -262143 ≤ t.date.year ∧ t.date.year ≤ 262142
  date : t.date.InCalendar
  hour : t.hour ≤ 23
  minute : t.minute ≤ 59
  second : ∀ s, t.second = some s → s ≤ 60

/-- What may follow the minute: nothing, or a colon and a second. -/
inductive Finishes : Option Nat → List Char → Prop
  | minute : Finishes none []
  | second
      {s : Nat} {cs : List Char}
      (h : Counted s cs []) :
      Finishes (some s) (':' :: cs)

/-- The text spells the reading from its start to its end. -/
inductive Reads (t : Reading) (cs : List Char) : Prop
  | spelled
      {afterYear afterMonth gap clock afterHour afterMinute : List Char}
      (hyear : Dated t.date.year cs ('/' :: afterYear))
      (hmonth : Counted t.date.month afterYear ('/' :: afterMonth))
      (hday : Counted t.date.day afterMonth (gap ++ clock))
      (hgap : ∀ c ∈ gap, Text.isBlank c = true)
      (hhour : Counted t.hour clock (':' :: afterHour))
      (hminute : Counted t.minute afterHour afterMinute)
      (hend : Finishes t.second afterMinute) :
      Reads t cs

/-! ### The reader and the grammar -/

theorem readDate_eq_some_iff {cs r : List Char} {d : Date} :
    readDate cs = some (d, r)
      ↔ ∃ afterYear afterMonth, Dated d.year cs ('/' :: afterYear)
        ∧ Counted d.month afterYear ('/' :: afterMonth) ∧ Counted d.day afterMonth r
        ∧ (-262143 ≤ d.year ∧ d.year ≤ 262142) ∧ d.InCalendar := by
  simp only [readDate, Option.bind_eq_bind, Option.bind_eq_some_iff, Prod.exists, mark_eq_some_iff,
    year_eq_some_iff, month, day, bounded_eq_some_iff]
  constructor
  · rintro ⟨y, _, hyear, afterYear, rfl, m, _, ⟨hmonth, -⟩, afterMonth, rfl, n, _, ⟨hday, -⟩, h⟩
    split at h
    · rename_i hthere
      cases h
      rw [Bool.and_eq_true, isYearKnown, Bool.and_eq_true, decide_eq_true_iff,
        decide_eq_true_iff, Date.isReal_iff] at hthere
      exact ⟨afterYear, afterMonth, hyear, hmonth, hday, hthere⟩
    · cases h
  · rintro ⟨afterYear, afterMonth, hyear, hmonth, hday, hknown, hreal⟩
    rw [← Date.isReal_iff] at hreal
    obtain ⟨hm, hd⟩ := Instant.bounds_of_isReal hreal
    refine ⟨d.year, _, hyear, afterYear, rfl, d.month, _, ⟨hmonth, hm⟩, afterMonth, rfl, d.day, r,
      ⟨hday, hd⟩, if_pos ?_⟩
    rw [Bool.and_eq_true, isYearKnown, Bool.and_eq_true, decide_eq_true_iff, decide_eq_true_iff]
    exact ⟨hknown, hreal⟩

theorem readClock_eq_some_iff {cs r : List Char} {h m : Nat} :
    readClock cs = some ((h, m), r)
      ↔ ∃ afterHour, Counted h cs (':' :: afterHour) ∧ Counted m afterHour r
        ∧ h ≤ 23 ∧ m ≤ 59 := by
  simp only [readClock, Option.bind_eq_bind, Option.bind_eq_some_iff, Prod.exists, mark_eq_some_iff,
    hour, minute, bounded_eq_some_iff]
  constructor
  · rintro ⟨_, _, ⟨hhour, -, hh⟩, afterHour, rfl, _, _, ⟨hminute, -, hm⟩, heq⟩
    cases heq
    exact ⟨afterHour, hhour, hminute, hh, hm⟩
  · rintro ⟨afterHour, hhour, hminute, hh, hm⟩
    exact ⟨h, _, ⟨hhour, Nat.zero_le h, hh⟩, afterHour, rfl, m, r, ⟨hminute, Nat.zero_le m, hm⟩, rfl⟩

theorem endsAfterMinute_iff {r : List Char} :
    endsAfterMinute r = true
      ↔ ∃ second, Finishes second r ∧ ∀ s, second = some s → s ≤ 60 := by
  rw [endsAfterMinute, Bool.or_eq_true, List.isEmpty_iff]
  constructor
  · rintro (rfl | h)
    · exact ⟨none, .minute, by rintro s ⟨⟩⟩
    · split at h
      · rename_i s r' hread
        obtain ⟨cs, hmark, hsecond⟩ := Option.bind_eq_some_iff.1 hread
        obtain ⟨hsecond, -, hs⟩ := bounded_eq_some_iff.1 hsecond
        rw [List.isEmpty_iff.1 h] at hsecond
        rw [mark_eq_some_iff.1 hmark]
        refine ⟨some s, .second hsecond, ?_⟩
        rintro _ ⟨⟩
        exact hs
      · cases h
  · rintro ⟨second, hend, hs⟩
    cases hend with
    | minute => exact .inl rfl
    | @second s cs hsecond =>
        right
        have hread : Field.second cs = some (s, []) :=
          bounded_eq_some_iff.2 ⟨hsecond, Nat.zero_le s, hs s rfl⟩
        rw [mark_cons, Option.bind_some, hread]
        rfl

/-- The reader accepts the texts that spell a day and a time that are there. -/
theorem accepts_iff (s : String) :
    accepts s = true ↔ ∃ t : Reading, t.IsThere ∧ Reads t s.toList := by
  rw [accepts]
  constructor
  · intro h
    split at h
    · cases h
    · rename_i date r hdate
      split at h
      · cases h
      · rename_i clock r' hclock
        obtain ⟨hour, minute⟩ := clock
        obtain ⟨afterYear, afterMonth, hyear, hmonth, hday, hknown, hreal⟩ :=
          readDate_eq_some_iff.1 hdate
        obtain ⟨afterHour, hhour, hminute, hh, hm⟩ := readClock_eq_some_iff.1 hclock
        obtain ⟨second, hend, hs⟩ := endsAfterMinute_iff.1 h
        obtain ⟨gap, hgap, hr⟩ := exists_blanks r
        rw [hr] at hday
        exact ⟨⟨date, hour, minute, second⟩, ⟨hknown, hreal, hh, hm, hs⟩,
          .spelled hyear hmonth hday hgap hhour hminute hend⟩
  · rintro ⟨t, hthere, hyear, hmonth, hday, hgap, hhour, hminute, hend⟩
    have hdate := readDate_eq_some_iff.2
      ⟨_, _, hyear, hmonth, hday, hthere.year, hthere.date⟩
    have hclock := readClock_eq_some_iff.2
      ⟨_, (hhour.behind hgap).trimFront, hminute, hthere.hour, hthere.minute⟩
    simp only [hdate, hclock]
    exact endsAfterMinute_iff.2 ⟨t.second, hend, hthere.second⟩

/-- A day of two digits needs no blank behind it, but one of three digits is no day. -/
example : accepts "2024/03/1409:05" = true ∧ accepts "2024/03/014 09:05" = false := by
  decide +kernel

/-! ### One text, one reading -/

theorem Finishes.unique
    {s t : Option Nat} {cs : List Char} (h : Finishes s cs) (h' : Finishes t cs) :
    s = t := by
  cases h with
  | minute =>
      cases h'
      rfl
  | second h =>
      cases h' with
      | second h' => rw [(h.unique h').1]

/-- A text spells one reading at most. -/
theorem Reads.unique
    {t u : Reading} {cs : List Char} (h : Reads t cs) (h' : Reads u cs) :
    t = u := by
  obtain ⟨hyear, hmonth, hday, hgap, hhour, hminute, hend⟩ := h
  obtain ⟨hyear', hmonth', hday', hgap', hhour', hminute', hend'⟩ := h'
  obtain ⟨hy, hrest⟩ := hyear.unique hyear'
  rw [(List.cons.inj hrest).2] at hmonth
  obtain ⟨hm, hrest⟩ := hmonth.unique hmonth'
  rw [(List.cons.inj hrest).2] at hday
  obtain ⟨hd, hrest⟩ := hday.unique hday'
  -- The blanks before the hour may be counted to the gap or to the hour.
  have hclock := hhour.behind hgap
  rw [hrest] at hclock
  obtain ⟨hh, hrest⟩ := hclock.unique (hhour'.behind hgap')
  rw [(List.cons.inj hrest).2] at hminute
  obtain ⟨hn, hrest⟩ := hminute.unique hminute'
  rw [hrest] at hend
  have hs := hend.unique hend'
  obtain ⟨⟨y, m, d⟩, h, n, s⟩ := t
  obtain ⟨⟨y', m', d'⟩, h', n', s'⟩ := u
  simp only at hy hm hd hh hn hs
  rw [hy, hm, hd, hh, hn, hs]

/-! ### Padded texts -/

/-- The second behind its colon, if there is one. -/
def secondText : Option Nat → List Char
  | none => []
  | some s => ':' :: padded 2 s

/-- The reading as `2024/03/14 23:59`, with a second behind it if it has one. -/
def Reading.text (t : Reading) : List Char :=
  padded 4 t.date.year.toNat ++ '/' :: (padded 2 t.date.month ++ '/' :: (padded 2 t.date.day
    ++ ' ' :: (padded 2 t.hour ++ ':' :: (padded 2 t.minute ++ secondText t.second))))

/-- Each number has room in its field. -/
structure Reading.Fits (t : Reading) : Prop where
  year : 0 ≤ t.date.year ∧ t.date.year ≤ 9999
  month : t.date.month < 100
  day : t.date.day < 100
  hour : t.hour < 100
  minute : t.minute < 100
  second : ∀ s, t.second = some s → s < 100

theorem Reading.IsThere.fits
    {t : Reading} (h : t.IsThere) (hyear : 0 ≤ t.date.year ∧ t.date.year ≤ 9999) :
    t.Fits := by
  obtain ⟨⟨-, hmonth⟩, -, hday⟩ := Instant.bounds_of_isReal ((Date.isReal_iff t.date).2 h.date)
  have hh := h.hour
  have hm := h.minute
  exact
    { year := hyear
      month := by omega
      day := by omega
      hour := by omega
      minute := by omega
      second := fun s hs => Nat.lt_of_le_of_lt (h.second s hs) (by decide) }

/-- The padded text of a reading spells it. -/
theorem Reading.Fits.reads {t : Reading} (h : t.Fits) :
    Reads t t.text := by
  have hyear := dated_padded (show t.date.year.toNat < 10000 by have := h.year; omega)
  rw [Int.toNat_of_nonneg h.year.1] at hyear
  have hend : Finishes t.second (secondText t.second) := by
    cases hs : t.second with
    | none => exact .minute
    | some s =>
        have hsecond := counted_padded (h.second s hs) []
        rw [List.append_nil] at hsecond
        exact .second hsecond
  have hgap : ∀ c ∈ [' '], Text.isBlank c = true := List.forall_mem_singleton.2 (by decide)
  exact .spelled (hyear _) (counted_padded h.month _) (counted_padded h.day _) hgap
    (counted_padded h.hour _) (counted_padded h.minute _) hend

/--
A text is accepted if and only if it spells a day and a time that are there, from its start to
its end; the padded texts of the years 0 to 9999 do.
-/
theorem accepts_exactly :
    (∀ s : String, accepts s = true ↔ ∃ t : Reading, t.IsThere ∧ Reads t s.toList)
      ∧ ∀ t : Reading, t.IsThere → 0 ≤ t.date.year → t.date.year ≤ 9999 →
        accepts (String.ofList t.text) = true := by
  refine ⟨accepts_iff, fun t hthere hfirst hlast => ?_⟩
  have hreads := (hthere.fits ⟨hfirst, hlast⟩).reads
  rw [accepts_iff, String.toList_ofList]
  exact ⟨t, hthere, hreads⟩

/-- A leap second on a leap day of a century. -/
theorem accepts_exactly_specimen :
    let t : Reading := ⟨⟨2000, 2, 29⟩, 23, 59, some 60⟩
    t.IsThere ∧ String.ofList t.text = "2000/02/29 23:59:60"
      ∧ accepts "2000/02/29 23:59:60" = true := by
  intro t
  have hthere : t.IsThere :=
    { year := by decide
      date := .leap rfl rfl (by decide)
      hour := by decide
      minute := by decide
      second := fun s hs => Nat.le_of_eq (Option.some.inj hs).symm }
  have htext : String.ofList t.text = "2000/02/29 23:59:60" := by decide +kernel
  refine ⟨hthere, htext, ?_⟩
  rw [← htext]
  exact accepts_exactly.2 t hthere (by decide) (by decide)

end DealDate
end DealDesk
