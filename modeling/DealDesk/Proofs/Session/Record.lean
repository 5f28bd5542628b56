import DealDesk.Proofs.Json.Record
import DealDesk.Proofs.Time.Stamp
import DealDesk.Session.Basic
import Mathlib.Data.List.Forall2

/-!
# Sessions in documents

A session reads back from its document exactly when the amounts of its account and its
expiry do: texts, flags, whole numbers, lists and absent values always read back.  A double
is read in one pass and need not be the one that was printed.  If it is another one, the
session is read with that in its place; if it is none, no session is read.  An expiry is
read as its timestamp tells it, and so as another one if it lies in a leap second behind
any but the last second of a minute.

**Results.** `Session.ofText_text_iff`: what a session is read as from its compact text.
`Session.reread_self_iff` and `Session.readable_iff`: when that is the session itself, and
when it is a session at all.  `Session.legible_write`: what is written for a session is
legible if the numerals of its amounts are.
-/

namespace DealDesk

open Json

/-- The numeral follows the number grammar. -/
def Numeral.isProper (n : Numeral) : Bool :=
  decide n.WellFormed

theorem Numeral.wellFormed_of_isProper
    (n : Numeral) (h : n.isProper = true) :
    n.WellFormed :=
  of_decide_eq_true h

namespace Json.Codec

/-- An instant is read as its timestamp tells it. -/
theorem gives_instant_iff (t u : Instant) :
    instant.Gives t u ↔ u = t.told := by
  simp only [Gives, instant, Instant.ofStamp?_stamp, Except.ok.injEq, eq_comm]

/-- What is written for a double is legible, whatever it reads back as. -/
theorem legible_real (f : Float) (depth : Nat) :
    (real.write f).isLegible Numeral.isProper depth = true := by
  simp only [real, writeReal]
  split
  · exact decide_eq_true (Layout.wellFormed_spell .wire f)
  · rfl

/-- A double is read from its text as it is from its document. -/
theorem ofText_text_real_iff (f g : Float) :
    real.ofText (real.text f) = .ok g ↔ real.Gives f g :=
  ofText_text_iff Numeral.wellFormed_of_isProper (legible_real f 0)

theorem legible_string (ok : Numeral → Bool) (s : String) (depth : Nat) :
    (string.write s).isLegible ok depth = true := rfl

theorem legible_flag (ok : Numeral → Bool) (b : Bool) (depth : Nat) :
    (flag.write b).isLegible ok depth = true := rfl

theorem legible_instant (ok : Numeral → Bool) (t : Instant) (depth : Nat) :
    (instant.write t).isLegible ok depth = true := rfl

theorem legible_optional_string
    (ok : Numeral → Bool) (s : Option String) (depth : Nat) :
    ((optional string).write s).isLegible ok depth = true := by
  cases s with
  | none => rfl
  | some s => rfl

theorem legible_list
    {α : Type} {ok : Numeral → Bool} {c : Codec α} {depth : Nat} {vs : List α}
    (h : ∀ v ∈ vs, (c.write v).isLegible ok depth = true) :
    ((list c).write vs).isLegible ok (depth + 1) = true := by
  have hitems : Doc.areLegible ok (vs.map c.write) depth = true := by
    induction vs with
    | nil => rfl
    | cons v vs ih =>
        rw [List.map_cons, Doc.areLegible, h v List.mem_cons_self,
          ih fun w hw => h w (List.mem_cons_of_mem v hw), Bool.and_self]
  exact hitems

end Json.Codec

namespace Balance

/-- The amounts in the order of their members. -/
def amounts (b : Balance) : List Float :=
  [b.balance, b.deposit, b.profitLoss, b.available]

theorem gives_iff (b c : Balance) :
    codec.Gives b c ↔ List.Forall₂ Codec.real.Gives b.amounts c.amounts := by
  rw [codec, Codec.gives_imap_iff (fun _ => rfl) (fun _ => rfl), Fields.gives_iff (by decide)]
  simp [fields, Fields.Both, Field.Gives, Field.required, amounts]

theorem legible_write
    {ok : Numeral → Bool} {b : Balance} {depth : Nat}
    (h : ∀ f ∈ b.amounts, (Codec.real.write f).isLegible ok depth = true) :
    (codec.write b).isLegible ok (depth + 1) = true := by
  rw [codec, Codec.imap_write]
  refine fields.legible_write _ ?_
  simpa [fields, Fields.Each, Field.Legible, Field.required, amounts] using h

end Balance

namespace AccountEntry

theorem readsBack (e : AccountEntry) :
    codec.ReadsBack e := by
  change codec.Gives e e
  rw [codec, Codec.gives_imap_iff (fun _ => rfl) (fun _ => rfl), Fields.gives_iff (by decide)]
  simp [fields, Fields.Both, Field.Gives, Field.required, Field.withDefault,
    (Codec.readsBack_string _).gives_iff, (Codec.readsBack_flag _).gives_iff]

theorem legible_write
    (ok : Numeral → Bool) (e : AccountEntry) (depth : Nat) :
    (codec.write e).isLegible ok (depth + 1) = true := by
  rw [codec, Codec.imap_write]
  refine fields.legible_write _ ?_
  simp [fields, Fields.Each, Field.Legible, Field.required, Field.withDefault,
    Codec.legible_string, Codec.legible_flag]

end AccountEntry

namespace Account

theorem gives_iff (a b : Account) :
    codec.Gives a b
      ↔ b = { a with accountInfo := b.accountInfo }
        ∧ Balance.codec.Gives a.accountInfo b.accountInfo := by
  have hentries : (Codec.list AccountEntry.codec).ReadsBack a.accounts :=
    Codec.readsBack_list fun e _ => e.readsBack
  rw [codec, Codec.gives_imap_iff (fun _ => rfl) (fun _ => rfl), Fields.gives_iff (by decide)]
  obtain ⟨⟩ := b
  simp [fields, Fields.Both, Field.Gives, Field.required, Field.withDefault, Field.nullable,
    (Codec.readsBack_string _).gives_iff, (Codec.readsBack_flag _).gives_iff,
    (Codec.readsBack_optional_string _).gives_iff, (Codec.readsBack_int32 _).gives_iff,
    hentries.gives_iff]
  tauto

theorem legible_write
    {ok : Numeral → Bool} {a : Account} {depth : Nat}
    (hreal : ∀ f ∈ a.accountInfo.amounts, (Codec.real.write f).isLegible ok (depth + 1) = true)
    (hwhole : ok (Numeral.ofInt a.timezoneOffset.toInt) = true) :
    (codec.write a).isLegible ok (depth + 3) = true := by
  have hbalance := Balance.legible_write hreal
  have hentries : ((Codec.list AccountEntry.codec).write a.accounts).isLegible ok (depth + 2)
      = true :=
    Codec.legible_list fun e _ => e.legible_write ok depth
  have hoffset : (Codec.int32.write a.timezoneOffset).isLegible ok (depth + 2) = true := hwhole
  rw [codec, Codec.imap_write]
  refine fields.legible_write _ ?_
  simp [fields, Fields.Each, Field.Legible, Field.required, Field.withDefault, Field.nullable,
    Codec.legible_string, Codec.legible_flag, Codec.legible_optional_string, hbalance,
    hentries, hoffset]

end Account

namespace Session

/-- The amounts of the account of the session. -/
def amounts (s : Session) : List Float :=
  s.account.accountInfo.amounts

/-- The session with other amounts. -/
def withBalance (s : Session) (b : Balance) : Session :=
  { s with account := { s.account with accountInfo := b } }

/-- The session with another expiry. -/
def expiringAt (s : Session) (expiry : Instant) : Session :=
  { s with expiry }

/--
The second session is the first with what is read from its printed amounts, and with the
expiry that its timestamp tells.
-/
def Reread (s t : Session) : Prop :=
  t = (s.withBalance t.account.accountInfo).expiringAt s.expiry.told
    ∧ List.Forall₂ (fun f g => Codec.real.ofText (Codec.real.text f) = .ok g) s.amounts t.amounts

theorem gives_iff (s t : Session) :
    codec.Gives s t ↔ s.Reread t := by
  rw [codec, Codec.gives_imap_iff (fun _ => rfl) (fun _ => rfl), Fields.gives_iff (by decide)]
  obtain ⟨_, _, _, a⟩ := t
  obtain ⟨⟩ := a
  simp [fields, Fields.Both, Field.Gives, Field.required, (Codec.readsBack_string _).gives_iff,
    Codec.gives_instant_iff, Account.gives_iff, Balance.gives_iff, amounts,
    Reread, withBalance, expiringAt, Codec.ofText_text_real_iff]
  tauto

theorem legible_write
    {ok : Numeral → Bool} {s : Session} {depth : Nat}
    (hreal : ∀ f ∈ s.amounts, (Codec.real.write f).isLegible ok (depth + 1) = true)
    (hwhole : ok (Numeral.ofInt s.account.timezoneOffset.toInt) = true) :
    (codec.write s).isLegible ok (depth + 4) = true := by
  have haccount := Account.legible_write hreal hwhole
  rw [codec, Codec.imap_write]
  refine fields.legible_write _ ?_
  simp [fields, Fields.Each, Field.Legible, Field.required, Codec.legible_string,
    Codec.legible_instant, haccount]

theorem legible_proper (s : Session) (depth : Nat) :
    (codec.write s).isLegible Numeral.isProper (depth + 4) = true :=
  legible_write (fun f _ => Codec.legible_real f (depth + 1))
    (decide_eq_true (Numeral.wellFormed_ofInt _))

/-- Every amount is what the number that is printed for it reads back as. -/
def Faithful (s : Session) : Prop :=
  ∀ f ∈ s.amounts, Codec.real.ofText (Codec.real.text f) = .ok f

/-- The amounts read back, and so does the expiry. -/
def Exact (s : Session) : Prop :=
  s.Faithful ∧ s.expiry.IsRegular

/-- An expiry outside leap seconds reads back. -/
theorem exact_iff_faithful
    {s : Session} (h : s.expiry.isLeap = false) :
    s.Exact ↔ s.Faithful :=
  and_iff_left (Instant.isRegular_of_not_isLeap h)

/-- A session is read as itself exactly when its amounts and its expiry read back. -/
theorem reread_self_iff (s : Session) :
    s.Reread s ↔ s.Exact := by
  have hexpiry : s = (s.withBalance s.account.accountInfo).expiringAt s.expiry.told
      ↔ s.expiry.IsRegular := by
    rw [← Instant.told_eq_self_iff]
    refine ⟨fun h => (congrArg Session.expiry h).symm, fun h => ?_⟩
    rw [h]
    rfl
  rw [Reread, hexpiry, List.forall₂_same, and_comm]
  exact Iff.rfl

/-- A session whose amounts read back is read with the expiry that its timestamp tells. -/
theorem reread_of_faithful
    {s : Session} (h : s.Faithful) :
    s.Reread (s.expiringAt s.expiry.told) :=
  ⟨rfl, List.forall₂_same.2 h⟩

/-- Some amount is read from the number that is printed for each. -/
def Readable (s : Session) : Prop :=
  ∀ f ∈ s.amounts, ∃ g, Codec.real.ofText (Codec.real.text f) = .ok g

/-- A session is read as some session exactly when its amounts can be read. -/
theorem readable_iff (s : Session) :
    s.Readable ↔ ∃ t, s.Reread t := by
  constructor
  · intro h
    simp only [Readable, amounts, Balance.amounts, List.forall_mem_cons] at h
    obtain ⟨⟨balance, hbalance⟩, ⟨deposit, hdeposit⟩, ⟨profitLoss, hprofitLoss⟩,
      ⟨available, havailable⟩, -⟩ := h
    refine ⟨(s.withBalance ⟨balance, deposit, profitLoss, available⟩).expiringAt s.expiry.told,
      rfl, ?_⟩
    exact .cons hbalance (.cons hdeposit (.cons hprofitLoss (.cons havailable .nil)))
  · rintro ⟨t, -, h⟩
    simp only [amounts, Balance.amounts, List.forall₂_cons] at h
    obtain ⟨hbalance, hdeposit, hprofitLoss, havailable, -⟩ := h
    simp only [Readable, amounts, Balance.amounts, List.forall_mem_cons]
    exact ⟨⟨_, hbalance⟩, ⟨_, hdeposit⟩, ⟨_, hprofitLoss⟩, ⟨_, havailable⟩,
      fun f hf => absurd hf List.not_mem_nil⟩

/-- What a session is read as from its compact text. -/
theorem ofText_text_iff (s t : Session) :
    codec.ofText (codec.text s) = .ok t ↔ s.Reread t := by
  rw [Codec.ofText_text_iff Numeral.wellFormed_of_isProper (s.legible_proper 0), gives_iff]

/-- A session with two accounts that expires in a leap second of a year below zero. -/
def specimen : Session where
  clientToken := "cst \"é\"\n𝄞"
  securityToken := ""
  expiry := ⟨(Date.mk (-12345) 6 30).number, 86399, 1500000001,
    by decide, by decide, by decide⟩
  account :=
    { accountType := "CFD"
      accountInfo := ⟨1000.5, 0.1, -12.25, 0.0⟩
      currencyIsoCode := "EUR"
      currencySymbol := some "€"
      currentAccountId := "ABC12"
      lightstreamerEndpoint := none
      accounts := [⟨"ABC12", "Main", true, "CFD"⟩, ⟨"XYZ99", "", false, "SPREADBET"⟩]
      clientId := "100"
      timezoneOffset := -2147483648
      hasActiveDemoAccounts := true
      hasActiveLiveAccounts := false
      trailingStopsEnabled := false
      reroutingEnvironment := none
      dealingEnabled := true }

theorem faithful_specimen : specimen.Faithful := by
  rintro f hf
  simp only [amounts, Balance.amounts, specimen, List.mem_cons, List.not_mem_nil, or_false] at hf
  rcases hf with rfl | rfl | rfl | rfl <;> rfl

theorem exact_specimen : specimen.Exact :=
  ⟨faithful_specimen, by decide⟩

/-- A session with the amounts of the specimen that does not expire in a leap second. -/
theorem exact_of_amounts
    {s : Session} (h : s.amounts = specimen.amounts) (hleap : s.expiry.isLeap = false) :
    s.Exact := by
  rw [exact_iff_faithful hleap, Faithful, h]
  exact faithful_specimen

/-- A day in March. -/
theorem march_mem :
    firstDay ≤ (Date.mk 2024 3 13).number ∧ (Date.mk 2024 3 13).number ≤ lastDay := by
  decide

theorem nine_lt : 32400 < secondsPerDay := by decide

/-- A session that expires in a leap second behind the first second of an hour. -/
def lateSpecimen : Session :=
  specimen.expiringAt ⟨(Date.mk 2024 3 13).number, 32400, 1500000000,
    march_mem, nine_lt, by decide⟩

/-- Its amounts read back, and its expiry does not. -/
theorem not_exact_lateSpecimen :
    lateSpecimen.Faithful ∧ ¬ lateSpecimen.Exact :=
  ⟨faithful_specimen, fun h => absurd h.2 (by decide)⟩

/-- The session with the expiry that the timestamp tells, half a second into the next second. -/
def lateRead : Session :=
  specimen.expiringAt ⟨(Date.mk 2024 3 13).number, 32401, 500000000,
    march_mem, by decide, by decide⟩

theorem reread_lateSpecimen : lateSpecimen.Reread lateRead :=
  reread_of_faithful faithful_specimen

-- with the common margin of five minutes the one session is too old, and the other is not
example :
    let now : Instant := ⟨(Date.mk 2024 3 13).number, 32101, 200000000,
      march_mem, by decide, by decide⟩
    lateSpecimen.isValidAt now (Span.ofMinutes 5) = false
      ∧ lateRead.isValidAt now (Span.ofMinutes 5) = true := by
  decide

/-- A double that is printed with more digits than are read exactly. -/
def oddAmount : Float := 123456789.12345679

theorem ofText_text_oddAmount :
    Codec.real.ofText (Codec.real.text oddAmount) = .ok 123456789.1234568 := by
  have hread : (Codec.real.ofText (Codec.real.text oddAmount)).toOption
      = some 123456789.1234568 := by decide +kernel
  cases hr : Codec.real.ofText (Codec.real.text oddAmount) with
  | error e =>
      rw [hr] at hread
      cases hread
  | ok f =>
      rw [hr] at hread
      exact congrArg Except.ok (Option.some.inj hread)

/-- A session with such an amount is read, but not as it was. -/
theorem not_faithful_of_oddAmount
    {s : Session} (h : oddAmount ∈ s.amounts) :
    ¬ s.Faithful := by
  intro hf
  have hread := hf oddAmount h
  rw [ofText_text_oddAmount, Except.ok.injEq] at hread
  revert hread
  decide +kernel

end Session

end DealDesk
