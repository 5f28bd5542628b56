import DealDesk.Time.Instant

/-!
# Deadlines

The instant whole seconds after another one is counted from the second that the other one
lies in; a leap second counts as the second before it.  There is no instant past the last
day, so a deadline may be missing.

**Results.** `Instant.ofTicks?_isSome_iff`: which numbers of nanoseconds are instants.
`Instant.add?_ofSeconds`: the instant a number of seconds later.
`Instant.before_add?_iff`: of two spans from one instant, the shorter one ends first.
`Instant.nanos_since`: how long it is from one instant to another.
`Instant.add?_mono`: an earlier instant and a shorter span have an earlier deadline.
-/

namespace DealDesk
namespace Instant

/-- Nanoseconds from the epoch to the first day. -/
def firstTick : Int := firstDay * secondsPerDay * nanosPerSecond

/-- Nanoseconds from the epoch to the end of the last day. -/
def endTick : Int := (lastDay + 1) * secondsPerDay * nanosPerSecond

/-- The instants are the numbers of nanoseconds from the first day to the last. -/
theorem ofTicks?_isSome_iff (n : Int) :
    (ofTicks? n).isSome = true ↔ firstTick ≤ n ∧ n < endTick := by
  simp only [ofTicks?, ofParts?, firstTick, endTick]
  split
  · rename_i h
    simp only [Option.isSome_some, true_iff]
    simp only [secondsPerDay, nanosPerSecond, firstDay, lastDay] at *
    omega
  · rename_i h
    simp only [Option.isSome_none, Bool.false_eq_true, false_iff]
    simp only [secondsPerDay, nanosPerSecond, firstDay, lastDay] at *
    omega

/-- An instant outside leap seconds is the one of its nanoseconds. -/
theorem ofTicks?_ticks {t : Instant} (ht : t.isLeap = false) :
    ofTicks? t.ticks = some t := by
  have hday := t.day_mem
  have hsecond := t.second_lt
  have hnano : t.nano < nanosPerSecond := by simpa [isLeap] using ht
  have h1 : t.ticks / nanosPerSecond / secondsPerDay = t.day := by
    simp only [ticks, secondsPerDay, nanosPerSecond] at *
    omega
  have h2 : (t.ticks / nanosPerSecond % secondsPerDay).toNat = t.second := by
    simp only [ticks, secondsPerDay, nanosPerSecond] at *
    omega
  have h3 : (t.ticks % nanosPerSecond).toNat = t.nano := by
    simp only [ticks, secondsPerDay, nanosPerSecond] at *
    omega
  simp only [ofTicks?, h1, h2, h3, ofParts?]
  rw [dif_pos ⟨hday, hsecond, t.nano_lt⟩]

theorem tick_bounds {t : Instant} (ht : t.isLeap = false) :
    firstTick ≤ t.ticks ∧ t.ticks < endTick :=
  (ofTicks?_isSome_iff t.ticks).1 (by rw [ofTicks?_ticks ht]; rfl)

/-- Outside leap seconds the time between instants is the difference of their nanoseconds. -/
theorem nanos_since
    {t u : Instant} (ht : t.isLeap = false) (hu : u.isLeap = false) :
    (t.since u).nanos = t.ticks - u.ticks := by
  simp only [since, ticks, ht, hu, Bool.and_false, Bool.false_eq_true, if_false]
  simp only [secondsPerDay, nanosPerSecond]
  omega

/-- The first instant is not after the second. -/
def NotAfter (t u : Instant) : Prop :=
  u.before t = false

namespace NotAfter

variable {t u e : Instant}

theorem refl (t : Instant) : t.NotAfter t := by
  simp [NotAfter, before]

/-- What is before an instant comes after nothing that is not. -/
theorem before (h : t.NotAfter u) (hbefore : u.before e = true) : t.before e = true := by
  simp only [NotAfter, Instant.before, Bool.or_eq_true, Bool.and_eq_true, decide_eq_true_eq,
    ← Bool.not_eq_true] at h hbefore ⊢
  omega

theorem trans (h : t.NotAfter u) (h' : u.NotAfter e) : t.NotAfter e := by
  rw [NotAfter, ← Bool.not_eq_true] at h ⊢
  exact fun hbefore => h (h'.before hbefore)

end NotAfter

/-- Nanoseconds to the same part of the second that is no leap second. -/
def origin (t : Instant) : Int :=
  if t.isLeap then t.ticks - nanosPerSecond else t.ticks

/-- The origin lies in the second of the instant. -/
theorem origin_bounds (t : Instant) :
    (t.day * secondsPerDay + t.second) * nanosPerSecond ≤ t.origin
      ∧ t.origin < (t.day * secondsPerDay + t.second + 1) * nanosPerSecond := by
  have hnano := t.nano_lt
  cases ht : t.isLeap with
  | false =>
      simp only [isLeap, decide_eq_false_iff_not] at ht
      simp only [origin, isLeap, ticks, ht, decide_false, Bool.false_eq_true, if_false]
      simp only [secondsPerDay, nanosPerSecond] at *
      omega
  | true =>
      simp only [isLeap, decide_eq_true_eq] at ht
      simp only [origin, isLeap, ticks, ht, decide_true, if_true]
      simp only [secondsPerDay, nanosPerSecond] at *
      omega

theorem add?_ofSeconds (t : Instant) {n : Int} (h : 0 < n) :
    t.add? (Span.ofSeconds n) = ofTicks? (t.origin + n * nanosPerSecond) := by
  have hnanos : (Span.ofSeconds n).nanos = n * nanosPerSecond := rfl
  cases ht : t.isLeap with
  | false => rw [add?_eq ht, origin, ht, hnanos]; rfl
  | true =>
      simp only [add?, ht, origin, if_true, Span.seconds_ofSeconds, h, decide_true, Bool.true_or,
        hnanos]

/-- Nothing lies in a leap second that is whole seconds after an instant. -/
theorem isLeap_of_add?_ofSeconds
    {t u : Instant} {n : Int} (hn : 0 < n) (h : t.add? (Span.ofSeconds n) = some u) :
    u.isLeap = false := by
  rw [add?_ofSeconds t hn] at h
  exact (ticks_ofTicks? h).2

/-- Outside leap seconds the order of instants is the order of their nanoseconds. -/
theorem notAfter_iff
    {t u : Instant} (ht : t.isLeap = false) (hu : u.isLeap = false) :
    t.NotAfter u ↔ t.ticks ≤ u.ticks := by
  rw [NotAfter, ← Bool.not_eq_true, before_iff hu ht, Int.not_lt]

section Add

variable {t u : Instant} (ht : t.isLeap = false) (hu : u.isLeap = false)

include ht in
/-- No instant is so late. -/
theorem add?_of_late {d : Span} (h : endTick ≤ t.ticks + d.nanos) :
    t.add? d = none := by
  rw [add?_eq ht, ← Option.not_isSome_iff_eq_none, ofTicks?_isSome_iff]
  omega

include ht hu in
/-- An earlier instant and a shorter span have a deadline too, and not a later one. -/
theorem add?_mono
    {d d' : Span} {e' : Instant} (h : t.NotAfter u) (hd : 0 ≤ d.nanos) (hle : d.nanos ≤ d'.nanos)
    (he' : u.add? d' = some e') :
    ∃ e, t.add? d = some e ∧ e.NotAfter e' := by
  rw [add?_eq hu] at he'
  rw [notAfter_iff ht hu] at h
  obtain ⟨hticks', hleap'⟩ := ticks_ofTicks? he'
  obtain ⟨hfirst, -⟩ := tick_bounds ht
  obtain ⟨-, hend⟩ := tick_bounds hleap'
  -- The deadline lies between the first instant and the deadline that there is.
  have hsome : (ofTicks? (t.ticks + d.nanos)).isSome = true := by
    rw [ofTicks?_isSome_iff]
    omega
  obtain ⟨e, he⟩ := Option.isSome_iff_exists.1 hsome
  obtain ⟨hticks, hleap⟩ := ticks_ofTicks? he
  refine ⟨e, by rw [add?_eq ht, he], (notAfter_iff hleap hleap').2 ?_⟩
  omega

end Add

theorem add?_zero (t : Instant) :
    t.add? (Span.ofSeconds 0) = some t := by
  have hnanos : (Span.ofSeconds 0).nanos = 0 := by simp [Span.ofSeconds]
  cases ht : t.isLeap with
  | false => rw [add?_eq ht, hnanos, Int.add_zero, ofTicks?_ticks ht]
  | true =>
      have hparts : (firstDay ≤ t.day ∧ t.day ≤ lastDay) ∧ t.second < secondsPerDay
          ∧ t.nano < 2 * nanosPerSecond :=
        ⟨t.day_mem, t.second_lt, t.nano_lt⟩
      have hsame : ofParts? t.day t.second t.nano = some t := dif_pos hparts
      simp only [add?, ht, if_true, Span.seconds_ofSeconds, hnanos]
      simpa using hsame

/--
Of two spans of whole seconds from one instant, the first is over before the second is
exactly if it is shorter.
-/
theorem before_add?_iff
    {t e : Instant} {m n : Int} (hm : 0 ≤ m) (hn : 0 < n)
    (he : t.add? (Span.ofSeconds n) = some e) :
    (∃ d, t.add? (Span.ofSeconds m) = some d ∧ d.before e = true) ↔ m < n := by
  rw [add?_ofSeconds t hn] at he
  obtain ⟨heticks, heleap⟩ := ticks_ofTicks? he
  have hend : t.origin + n * nanosPerSecond < endTick :=
    ((ofTicks?_isSome_iff _).1 (by rw [he]; rfl)).2
  have hbounds := t.origin_bounds
  have hstart : firstTick ≤ t.origin := by
    have hday := t.day_mem
    simp only [firstTick, secondsPerDay, nanosPerSecond, firstDay] at *
    omega
  rcases Int.lt_or_eq_of_le hm with hpos | rfl
  · rw [add?_ofSeconds t hpos]
    constructor
    · rintro ⟨d, hd, hbefore⟩
      obtain ⟨hdticks, hdleap⟩ := ticks_ofTicks? hd
      have hlt := (before_iff hdleap heleap).1 hbefore
      simp only [nanosPerSecond] at *
      omega
    · intro hmn
      have hsome : (ofTicks? (t.origin + m * nanosPerSecond)).isSome = true := by
        rw [ofTicks?_isSome_iff]
        simp only [nanosPerSecond] at *
        omega
      obtain ⟨d, hd⟩ := Option.isSome_iff_exists.1 hsome
      obtain ⟨hdticks, hdleap⟩ := ticks_ofTicks? hd
      refine ⟨d, hd, (before_iff hdleap heleap).2 ?_⟩
      simp only [nanosPerSecond] at *
      omega
  · rw [add?_zero]
    refine ⟨fun _ => hn, fun _ => ⟨t, rfl, ?_⟩⟩
    -- The second that the instant lies in is over in less than one second more.
    have hsecond := t.second_lt
    have hesecond := e.second_lt
    simp only [isLeap, decide_eq_false_iff_not] at heleap
    simp only [before, Bool.or_eq_true, Bool.and_eq_true, decide_eq_true_eq]
    rw [ticks] at heticks
    simp only [secondsPerDay, nanosPerSecond] at *
    omega

end Instant
end DealDesk
