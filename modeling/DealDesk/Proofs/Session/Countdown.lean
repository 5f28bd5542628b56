import DealDesk.Proofs.Session.Record
import DealDesk.Proofs.Time.Deadline
import DealDesk.Vault.Basic

/-!
# What is shown of the time left

Whether a session is valid is decided by comparing instants.  What is shown of the time left
is decided by counting whole seconds, so a session in its last second is shown as expired
although it still grants access.  At any other time the two agree, and what is shown is the
number of whole minutes left.

**Results.** `Session.isValidAt_iff`: a session is valid if more time is left than the margin.
`Instant.countdown_eq_expired_iff`: it is shown as expired if less than a second is left.
`Session.countdown_tells`: what is shown agrees with validity except in the last second.
-/

namespace DealDesk

namespace Span

/-- A whole second at least is left exactly if the whole seconds are not zero or less. -/
theorem seconds_pos_iff (d : Span) :
    0 < d.seconds ↔ nanosPerSecond ≤ d.nanos := by
  simp only [seconds, nanosPerSecond]
  rcases Int.le_total 0 d.nanos with hpos | hneg
  · rw [Int.tdiv_eq_ediv_of_nonneg hpos]
    omega
  · have hcut : 0 ≤ (-d.nanos).tdiv (1000000000 : Nat) := Int.tdiv_nonneg (by omega) (by omega)
    rw [Int.neg_tdiv] at hcut
    omega

end Span

namespace Instant

section Countdown

variable {expiry now : Instant}

theorem countdown_of_past (h : (expiry.since now).seconds ≤ 0) :
    expiry.countdown now = "expired" := by
  simp only [countdown, h, if_true]

/-- While a second is left, hours and minutes are shown. -/
theorem countdown_of_left (h : 0 < (expiry.since now).seconds) :
    expiry.countdown now
      = "expires in " ++ String.ofList (natText ((expiry.since now).minutes.toNat / 60)) ++ "h "
        ++ String.ofList (natText ((expiry.since now).minutes.toNat % 60)) ++ "m ("
        ++ expiry.hourAndMinute ++ " UTC)" := by
  have hminutes : 0 ≤ (expiry.since now).minutes :=
    Int.tdiv_nonneg (Int.le_of_lt h) (by decide)
  obtain ⟨n, hn⟩ := Int.eq_ofNat_of_zero_le hminutes
  have hshown : ¬ (expiry.since now).seconds ≤ 0 := Int.not_le.2 h
  simp only [countdown, hshown, if_false, hn]
  rfl

/-- Less than a second before the expiry, and from then on, it is shown as past. -/
theorem countdown_eq_expired_iff :
    expiry.countdown now = "expired" ↔ (expiry.since now).nanos < nanosPerSecond := by
  rw [← Int.not_le, ← Span.seconds_pos_iff, Int.not_lt]
  refine ⟨fun hshown => ?_, countdown_of_past⟩
  refine Int.not_lt.1 fun hleft => ?_
  rw [countdown_of_left hleft] at hshown
  -- The other text is longer from its first words on.
  have hlength := congrArg String.length hshown
  have hwords : "expires in ".length = 11 ∧ "expired".length = 7 := by decide
  simp only [String.length_append] at hlength
  omega

end Countdown

end Instant

namespace Session

/-- The session is valid, but for less than a second. -/
def IsEnding (s : Session) (now : Instant) : Prop :=
  0 < (s.remaining now).nanos ∧ (s.remaining now).nanos < nanosPerSecond

section Left

variable {s : Session} {now : Instant}
variable (hexpiry : s.expiry.isLeap = false) (hnow : now.isLeap = false)

include hexpiry hnow in
/-- Outside leap seconds a session is valid if more time is left than the margin. -/
theorem isValidAt_iff {margin : Span} (hmargin : 0 ≤ margin.nanos) :
    s.isValidAt now margin = true ↔ margin.nanos < (s.remaining now).nanos := by
  obtain ⟨hfirst, -⟩ := Instant.tick_bounds hnow
  obtain ⟨-, hend⟩ := Instant.tick_bounds hexpiry
  have hrange := Instant.ofTicks?_isSome_iff (now.ticks + margin.nanos)
  rw [remaining, Instant.nanos_since hexpiry hnow, isValidAt, Instant.add?_eq hnow]
  cases hdeadline : Instant.ofTicks? (now.ticks + margin.nanos) with
  | none =>
      -- The deadline is past the last day, and so past the expiry.
      simp only [hdeadline, Option.isSome_none, Bool.false_eq_true, false_iff] at hrange ⊢
      omega
  | some deadline =>
      obtain ⟨hticks, hleap⟩ := Instant.ticks_ofTicks? hdeadline
      simp only
      rw [Instant.before_iff hleap hexpiry, hticks]
      omega

include hexpiry hnow in
theorem isValidAt_zero_iff :
    s.isValidAt now (Span.ofSeconds 0) = true ↔ 0 < (s.remaining now).nanos := by
  have hzero : (Span.ofSeconds 0).nanos = 0 := by simp [Span.ofSeconds]
  rw [isValidAt_iff hexpiry hnow (Int.le_of_eq hzero.symm), hzero]

include hexpiry hnow in
/-- Shown as expired are the sessions that are not valid, and those in their last second. -/
theorem countdown_eq_expired_iff :
    s.expiry.countdown now = "expired"
      ↔ s.isValidAt now (Span.ofSeconds 0) = false ∨ s.IsEnding now := by
  rw [Instant.countdown_eq_expired_iff, ← Bool.not_eq_true, isValidAt_zero_iff hexpiry hnow]
  change (s.remaining now).nanos < nanosPerSecond ↔ _
  simp only [IsEnding, nanosPerSecond]
  omega

/-- The hours and minutes that are shown are the whole minutes that are left. -/
theorem countdown_eq_minutesLeft (h : s.expiry.countdown now ≠ "expired") :
    ∃ hours minutes : Nat, minutes < 60 ∧ 60 * hours + minutes = s.minutesLeft now
      ∧ s.expiry.countdown now
        = "expires in " ++ String.ofList (natText hours) ++ "h "
          ++ String.ofList (natText minutes) ++ "m (" ++ s.expiry.hourAndMinute ++ " UTC)" := by
  have hleft : 0 < (s.expiry.since now).seconds :=
    Int.not_le.1 fun hpast => h (Instant.countdown_of_past hpast)
  exact ⟨s.minutesLeft now / 60, s.minutesLeft now % 60, Nat.mod_lt _ (by decide),
    Nat.div_add_mod _ 60, Instant.countdown_of_left hleft⟩

/-- A session that a vault hands out is valid for the margin. -/
theorem isValidAt_of_valid?
    {v : Vault} {margin : Span} (h : v.valid? now margin = .ok (some s)) :
    s.isValidAt now margin = true := by
  simp only [Vault.valid?] at h
  split at h
  · cases h
  · cases h
  · split at h
    · rename_i hvalid
      cases h
      exact hvalid
    · cases h

end Left

/--
Outside leap seconds a session is shown as expired if it is not valid without a margin, and in
the last second that it is valid.  Else the whole minutes that are left are shown.  What a
vault hands out is shown as expired in its last second, if there is no margin, and never
otherwise.
-/
theorem countdown_tells
    (s : Session) (now : Instant) (hexpiry : s.expiry.isLeap = false) (hnow : now.isLeap = false) :
    (s.expiry.countdown now = "expired"
        ↔ s.isValidAt now (Span.ofSeconds 0) = false ∨ s.IsEnding now)
      ∧ (s.IsEnding now → s.isValidAt now (Span.ofSeconds 0) = true)
      ∧ (s.expiry.countdown now ≠ "expired" →
        ∃ hours minutes : Nat, minutes < 60 ∧ 60 * hours + minutes = s.minutesLeft now
          ∧ s.expiry.countdown now
            = "expires in " ++ String.ofList (natText hours) ++ "h "
              ++ String.ofList (natText minutes) ++ "m (" ++ s.expiry.hourAndMinute ++ " UTC)")
      ∧ ∀ (v : Vault) (n : Int), 0 ≤ n → v.valid? now (Span.ofSeconds n) = .ok (some s) →
        (s.expiry.countdown now = "expired" ↔ n = 0 ∧ s.IsEnding now) := by
  have hshown := countdown_eq_expired_iff hexpiry hnow
  refine ⟨hshown, fun h => (isValidAt_zero_iff hexpiry hnow).2 h.1, countdown_eq_minutesLeft, ?_⟩
  intro v n hn hkept
  have hleft : n * nanosPerSecond < (s.remaining now).nanos :=
    (isValidAt_iff hexpiry hnow (Int.mul_nonneg hn (by decide))).1 (isValidAt_of_valid? hkept)
  rw [hshown, ← Bool.not_eq_true, isValidAt_zero_iff hexpiry hnow]
  simp only [IsEnding, nanosPerSecond] at hleft ⊢
  omega

/-- So many nanoseconds after nine o'clock, on a day in March. -/
def afterNine (nano : Nat) (h : nano < nanosPerSecond) : Instant where
  day := (Date.mk 2024 3 13).number
  second := 32400
  nano := nano
  day_mem := by decide
  second_lt := by decide
  nano_lt := Nat.lt_of_lt_of_le h (by decide)

/-- A session that expires 999 milliseconds after nine o'clock. -/
def endingSpecimen : Session :=
  { specimen with expiry := afterNine 999000000 (by decide) }

/-- Nine o'clock on that day. -/
def nineSpecimen : Instant :=
  afterNine 0 (by decide)

/-- At nine o'clock it is in its last second: shown as expired, and valid. -/
theorem countdown_tells_specimen :
    endingSpecimen.expiry.isLeap = false ∧ nineSpecimen.isLeap = false
      ∧ endingSpecimen.IsEnding nineSpecimen
      ∧ endingSpecimen.isValidAt nineSpecimen (Span.ofSeconds 0) = true
      ∧ endingSpecimen.expiry.countdown nineSpecimen = "expired" := by
  have hexpiry : endingSpecimen.expiry.isLeap = false := by decide
  have hnow : nineSpecimen.isLeap = false := by decide
  have hending : endingSpecimen.IsEnding nineSpecimen := by
    unfold IsEnding
    decide
  obtain ⟨hshown, hvalid, -, -⟩ := countdown_tells endingSpecimen nineSpecimen hexpiry hnow
  exact ⟨hexpiry, hnow, hending, hvalid hending, hshown.2 (.inr hending)⟩

/-- What is shown as expired need not be invalid. -/
theorem countdown_not_exact :
    ¬ ∀ (s : Session) (now : Instant), s.expiry.isLeap = false → now.isLeap = false →
      (s.expiry.countdown now = "expired" ↔ s.isValidAt now (Span.ofSeconds 0) = false) := by
  intro h
  have hshown : endingSpecimen.expiry.countdown nineSpecimen = "expired" := by decide +kernel
  have hvalid : endingSpecimen.isValidAt nineSpecimen (Span.ofSeconds 0) = true := by
    decide +kernel
  have hinvalid := (h endingSpecimen nineSpecimen (by decide) (by decide)).1 hshown
  rw [hvalid] at hinvalid
  cases hinvalid

end Session
end DealDesk
