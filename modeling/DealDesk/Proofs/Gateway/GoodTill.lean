import DealDesk.Proofs.Deal.WorkingOrder
import DealDesk.Proofs.Gateway.Client
import DealDesk.Proofs.Rules.Fields
import DealDesk.Proofs.Rules.Format
import DealDesk.Proofs.Rules.Shapes
import DealDesk.Proofs.Time.DealDate
import Mathlib.Data.List.Forall2

/-!
# Dates as orders carry them

The rule on the date of an order names two patterns, with a letter for each digit and with
all marks in their places.  What the rule asks is the reader of dates, which is more lenient,
and the date goes out as it was given.  So an order is sent with a date that can be read, but
the date follows a pattern only if it is the padded text of what it reads as.

**Results.** `promised_iff`: the texts of the two patterns are the padded texts of readings.
`promised_iff_padded`: when a text that reads follows one of them.  `Ticket.date_sent`: what is
known of the date of an order that breaks no rule.
-/

namespace DealDesk

namespace DealDate

open DealDesk.Field

/-! ### Patterns -/

/-- What may stand in a place of a pattern: a digit where that has a letter, else its mark. -/
def Fills (p c : Char) : Prop :=
  if p.isAlpha then Format.Figure c else c = p

/-- Each character of the text stands in a place of the pattern, and each place is filled. -/
def Follows (pattern s : String) : Prop :=
  List.Forall₂ Fills pattern.toList s.toList

/-- The form that the rule on dates promises. -/
def Promised (s : String) : Prop :=
  Follows "yyyy/mm/dd hh:mm" s ∨ Follows "yyyy/mm/dd hh:mm:ss" s

theorem figure_iff (c : Char) :
    Format.Figure c ↔ ∃ d : Digit, c = d.toChar := by
  constructor
  · intro h
    exact ⟨_, Digit.eq_toChar_of_ofChar? (if_pos h)⟩
  · rintro ⟨d, rfl⟩
    have hall : ∀ d : Digit, '0' ≤ d.toChar ∧ d.toChar ≤ '9' := by decide
    exact hall d

theorem follows_mark_iff
    {p : Char} (hp : p.isAlpha = false) {ps cs : List Char} :
    List.Forall₂ Fills (p :: ps) cs ↔ ∃ r, cs = p :: r ∧ List.Forall₂ Fills ps r := by
  rw [List.forall₂_cons_left_iff]
  simp [Fills, hp, and_comm]

/-- As many digits as a field has letters. -/
theorem follows_row_iff
    {p : Char} (hp : p.isAlpha = true) (width : Nat) {ps cs : List Char} :
    List.Forall₂ Fills (List.replicate width p ++ ps) cs
      ↔ ∃ ds r, ds.length = width ∧ cs = Digit.text ds ++ r ∧ List.Forall₂ Fills ps r := by
  induction width generalizing cs with
  | zero => simp [Digit.text]
  | succ width ih =>
      rw [List.replicate_succ, List.cons_append, List.forall₂_cons_left_iff]
      constructor
      · rintro ⟨c, cs, hc, h, rfl⟩
        obtain ⟨ds, r, hlength, rfl, hrest⟩ := ih.1 h
        rw [Fills, if_pos hp, figure_iff] at hc
        obtain ⟨d, rfl⟩ := hc
        exact ⟨d :: ds, r, congrArg Nat.succ hlength, rfl, hrest⟩
      · rintro ⟨ds, r, hlength, rfl, hrest⟩
        cases ds with
        | nil => cases hlength
        | cons d ds =>
            refine ⟨d.toChar, Digit.text ds ++ r, ?_, ?_, rfl⟩
            · rw [Fills, if_pos hp, figure_iff]
              exact ⟨d, rfl⟩
            · exact ih.2 ⟨ds, r, Nat.succ.inj hlength, rfl, hrest⟩

/-- A field of letters is filled by a number that is padded to its width. -/
theorem follows_field_iff
    {p : Char} (hp : p.isAlpha = true) {width : Nat} (hw : 0 < width) {ps cs : List Char} :
    List.Forall₂ Fills (List.replicate width p ++ ps) cs
      ↔ ∃ n r, n < Nat.pow 10 width ∧ cs = padded width n ++ r ∧ List.Forall₂ Fills ps r := by
  rw [follows_row_iff hp]
  constructor
  · rintro ⟨ds, r, hlength, rfl, hrest⟩
    have hlt := Digit.value_lt ds
    rw [hlength] at hlt
    exact ⟨Digit.value ds, r, hlt, by rw [padded_value hw hlength], hrest⟩
  · rintro ⟨n, r, hn, rfl, hrest⟩
    exact ⟨paddedDigits width n, r, length_paddedDigits hw hn, by rw [padded_eq_text], hrest⟩

/-- What follows the pattern of minutes starts with the padded text of a reading. -/
theorem follows_minutes_iff {ps cs : List Char} :
    List.Forall₂ Fills ("yyyy/mm/dd hh:mm".toList ++ ps) cs
      ↔ ∃ (t : Reading) (r : List Char), t.Fits ∧ t.second = none ∧ cs = t.text ++ r
        ∧ List.Forall₂ Fills ps r := by
  have hpattern : "yyyy/mm/dd hh:mm".toList ++ ps
      = List.replicate 4 'y' ++ '/' :: (List.replicate 2 'm' ++ '/' :: (List.replicate 2 'd'
        ++ ' ' :: (List.replicate 2 'h' ++ ':' :: (List.replicate 2 'm' ++ ps)))) := rfl
  simp (disch := decide) only [hpattern, follows_field_iff, follows_mark_iff]
  constructor
  · rintro ⟨y, _, hy, rfl, _, rfl, m, _, hm, rfl, _, rfl, d, _, hd, rfl, _, rfl, h, _, hh, rfl,
      _, rfl, n, r, hn, rfl, hrest⟩
    have hyear : 0 ≤ (y : Int) ∧ (y : Int) ≤ 9999 := by
      have hlt : y < 10000 := hy
      omega
    refine ⟨⟨⟨y, m, d⟩, h, n, none⟩, r, ⟨hyear, hm, hd, hh, hn, ?_⟩, rfl, ?_, hrest⟩
    · rintro s ⟨⟩
    · simp [Reading.text, secondText]
  · rintro ⟨t, r, hfits, hsecond, rfl, hrest⟩
    have hyear : t.date.year.toNat < 10000 := by
      have := hfits.year
      omega
    refine ⟨_, _, hyear, ?_, _, rfl, _, _, hfits.month, rfl, _, rfl, _, _, hfits.day, rfl, _, rfl,
      _, _, hfits.hour, rfl, _, rfl, _, r, hfits.minute, rfl, hrest⟩
    simp [Reading.text, hsecond, secondText]

theorem follows_second_iff {cs : List Char} :
    List.Forall₂ Fills ":ss".toList cs ↔ ∃ n < 100, cs = secondText (some n) := by
  have hpattern : ":ss".toList = ':' :: (List.replicate 2 's' ++ []) := rfl
  simp (disch := decide) only [hpattern, follows_mark_iff, follows_field_iff,
    List.forall₂_nil_left_iff]
  constructor
  · rintro ⟨_, rfl, n, _, hn, rfl, rfl⟩
    exact ⟨n, hn, by rw [List.append_nil, secondText]⟩
  · rintro ⟨n, hn, rfl⟩
    exact ⟨_, rfl, n, [], hn, (List.append_nil _).symm, rfl⟩

/-- The text to the second is the text to the minute with the second behind it. -/
theorem Reading.text_eq_append (t : Reading) :
    t.text = { t with second := none }.text ++ secondText t.second := by
  simp [text, secondText]

/-- The texts of the two patterns are the padded texts of the readings that fit. -/
theorem promised_iff (s : String) :
    Promised s ↔ ∃ t : Reading, t.Fits ∧ s.toList = t.text := by
  have hminutes : Follows "yyyy/mm/dd hh:mm" s
      ↔ ∃ (t : Reading) (r : List Char), t.Fits ∧ t.second = none ∧ s.toList = t.text ++ r
        ∧ r = [] := by
    rw [Follows, ← List.append_nil "yyyy/mm/dd hh:mm".toList, follows_minutes_iff]
    simp only [List.forall₂_nil_left_iff]
  have hseconds : Follows "yyyy/mm/dd hh:mm:ss" s
      ↔ ∃ (t : Reading) (r : List Char), t.Fits ∧ t.second = none ∧ s.toList = t.text ++ r
        ∧ ∃ n < 100, r = secondText (some n) := by
    rw [Follows, show "yyyy/mm/dd hh:mm:ss".toList = "yyyy/mm/dd hh:mm".toList ++ ":ss".toList
      from rfl, follows_minutes_iff]
    simp only [follows_second_iff]
  rw [Promised, hminutes, hseconds]
  constructor
  · rintro (⟨t, _, hfits, -, hs, rfl⟩ | ⟨t, _, hfits, hnone, hs, n, hn, rfl⟩)
    · exact ⟨t, hfits, by rw [hs, List.append_nil]⟩
    · refine ⟨{ t with second := some n }, { hfits with second := ?_ }, ?_⟩
      · rintro _ ⟨⟩
        exact hn
      · rw [hs, Reading.text_eq_append { t with second := some n }, ← hnone]
  · rintro ⟨t, hfits, hs⟩
    rw [Reading.text_eq_append] at hs
    have hminute : { t with second := none }.Fits :=
      { hfits with second := by rintro _ ⟨⟩ }
    cases hsecond : t.second with
    | none =>
        rw [hsecond] at hs
        exact .inl ⟨_, _, hminute, rfl, hs, rfl⟩
    | some n =>
        rw [hsecond] at hs
        exact .inr ⟨_, _, hminute, rfl, hs, n, hfits.second n hsecond, rfl⟩

/-- A text that reads has the promised form if it is the padded text of what it reads as. -/
theorem promised_iff_padded
    {s : String} {t : Reading} (hthere : t.IsThere) (hreads : Reads t s.toList) :
    Promised s ↔ (0 ≤ t.date.year ∧ t.date.year ≤ 9999) ∧ s.toList = t.text := by
  rw [promised_iff]
  constructor
  · rintro ⟨u, hfits, hs⟩
    -- The padded text is read as well, and a text has one reading only.
    have hpadded := hfits.reads
    rw [← hs] at hpadded
    rw [hreads.unique hpadded]
    exact ⟨hfits.year, hs⟩
  · rintro ⟨hyear, hs⟩
    exact ⟨t, hthere.fits hyear, hs⟩

end DealDate

/-! ### Orders -/

namespace Ticket

open DealDate Json Gateway

/-- The date until which an order is wanted to be good. -/
def goodTillDate? : Ticket → Option String
  | .placement r => r.goodTillDate
  | .revision r => r.goodTillDate
  | .opening _ => none
  | .closing _ => none
  | .amendment _ => none

/-- A date that breaks no rule is one that reads. -/
theorem accepts_of_validate
    {t : Ticket} (h : t.validate = .ok ()) {s : String} (hs : t.goodTillDate? = some s) :
    accepts s = true := by
  cases t with
  | placement r =>
      have hnormal := (Placement.rules_hold_iff r).1 ((Checked.validate_eq_ok_iff_forall r).1 h)
      exact hnormal.standing.date s hs
  | revision r =>
      have hrules := (Checked.validate_eq_ok_iff_forall r).1 h
      exact ((StandingTerms.forall_mem_map_on_iff Revision.standing r).1 hrules).date s hs
  | opening r => cases hs
  | closing r => cases hs
  | amendment r => cases hs

/-- The document of an order holds the date as it was given. -/
theorem into?_document
    {t : Ticket} {s : String} (hs : t.goodTillDate? = some s) :
    t.document.into? (.member "goodTillDate") = some (.str (some s)) := by
  cases t with
  | placement r =>
      rw [goodTillDate?] at hs
      rw [document, Placement.codec, Fields.into?_write Placement.distinct_keys]
      simp [Placement.fields, Fields.shown?, Field.required, Field.withDefault, Field.elided, hs,
        Codec.optional, Codec.string, Codec.textAs]
  | revision r =>
      rw [goodTillDate?] at hs
      rw [document, Revision.codec, Fields.into?_write Revision.distinct_keys]
      simp [Revision.fields, Fields.shown?, Field.required, Field.withDefault, Field.elided, hs,
        Codec.optional, Codec.string, Codec.textAs]
  | opening r => cases hs
  | closing r => cases hs
  | amendment r => cases hs

/-- A client that is fit sends the document of a ticket that breaks no rule. -/
theorem sent_of_validate
    {t : Ticket} (h : t.validate = .ok ()) {c : Client} (hfit : ∀ name, ¬ c.Unfit name)
    {op : Operation} (hop : op.ticket = some t) (n : Network) :
    ∃ r, (c.perform op n).2.sent = n.sent ++ [r] ∧ r.body = some t.document := by
  have hsound : ∀ e, ¬ op.Breaks e := by
    rintro e ⟨_, _, _, _, t', hrow, hviolations, -⟩
    rw [hrow.ticket_eq, Option.some.injEq] at hop
    rw [← hop, Ticket.validate_eq, if_neg hviolations] at h
    cases h
  obtain ⟨r, hrequest, _, _, _, ticket, hrow, -, -, hbody, -⟩ := Client.exists_request hsound hfit
  rw [← hrow.ticket_eq, hop, Option.map_some, ← document_eq] at hbody
  exact ⟨r, Client.sent_perform hrequest n, hbody⟩

/--
The date of an order that breaks no rule spells one day and time, and these are there.  It has
the promised form exactly if it is the padded text of what it spells, in the years 0 to 9999.
It stands in the document of the order as it was given, and this is what is sent.
-/
theorem date_sent
    {t : Ticket} (h : t.validate = .ok ()) {s : String} (hs : t.goodTillDate? = some s) :
    (∃ u : DealDate.Reading, u.IsThere ∧ Reads u s.toList ∧ (∀ v, Reads v s.toList → v = u)
        ∧ (Promised s ↔ (0 ≤ u.date.year ∧ u.date.year ≤ 9999) ∧ s.toList = u.text))
      ∧ t.document.into? (.member "goodTillDate") = some (.str (some s))
      ∧ ∀ (c : Client) (op : Operation) (n : Network),
        (∀ name, ¬ c.Unfit name) → op.ticket = some t →
          ∃ r, (c.perform op n).2.sent = n.sent ++ [r] ∧ r.body = some t.document := by
  obtain ⟨u, hthere, hreads⟩ := (accepts_iff s).1 (accepts_of_validate h hs)
  refine ⟨⟨u, hthere, hreads, fun v hv => hv.unique hreads, ?_⟩, into?_document hs, ?_⟩
  · exact promised_iff_padded hthere hreads
  · exact fun c op n hfit hop => sent_of_validate h hfit hop n

/-- An order that is good until a date without padding. -/
def loose : Ticket :=
  .placement
    { Placement.plain with
      timeInForce := .goodTillDate
      goodTillDate := some "2024/3/1 9:05" }

/-- The date of such an order breaks no rule and is sent. -/
theorem date_sent_loose :
    loose.validate = .ok ()
      ∧ loose.goodTillDate? = some "2024/3/1 9:05"
      ∧ (∃ u : DealDate.Reading, u.IsThere ∧ Reads u "2024/3/1 9:05".toList)
      ∧ loose.document.into? (.member "goodTillDate") = some (.str (some "2024/3/1 9:05")) := by
  have hvalid : loose.validate = .ok () := by decide +kernel
  obtain ⟨⟨u, hthere, hreads, -⟩, hdocument, -⟩ := date_sent hvalid (s := "2024/3/1 9:05") rfl
  exact ⟨hvalid, rfl, ⟨u, hthere, hreads⟩, hdocument⟩

/-- It has not the form that the rule on dates promises, neither when placed nor when revised. -/
theorem loose_not_promised :
    let revised : Revision :=
      { Revision.plain with
        timeInForce := .goodTillDate
        goodTillDate := some "2024/3/1 9:05" }
    loose.validate = .ok ()
      ∧ Checked.validate revised = .ok ()
      ∧ ¬ Promised "2024/3/1 9:05" := by
  refine ⟨by decide +kernel, by decide +kernel, ?_⟩
  rintro (h | h)
  · exact absurd h.length_eq (by decide)
  · exact absurd h.length_eq (by decide)

end Ticket
end DealDesk
