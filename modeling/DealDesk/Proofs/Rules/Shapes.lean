import DealDesk.Proofs.Rules.Opening
import DealDesk.Rules.WorkingOrder

/-!
# The normal forms of the other requests

What closes a position names its target and its price; what amends one has a stop of one of
three shapes; and what places or revises an order has terms in which each of stop and limit
is set at most once.  The rules of each table overlap, but leave just these forms.

**Results.** `Closing.rules_hold_iff`, `Amendment.rules_hold_iff`, `StandingTerms.rules_hold_iff`
and `Placement.formRules_hold_iff`: what the tables leave.  `requests_normal_iff`: a request of
any of the four kinds is accepted exactly if it is in its normal form.
-/

namespace DealDesk

/-- A request is accepted exactly if every rule of its table holds. -/
theorem Checked.validate_eq_ok_iff_forall
    {α : Type} [Checked α] (x : α) :
    Checked.validate x = .ok () ↔ ∀ rule ∈ (Checked.rules : List (Rule α)), rule.holds x = true := by
  rw [Checked.validate_eq_ok_iff, Checked.violations_eq_nil_iff, Checked.isValid, List.all_eq_true]

/-! ### Closings -/

namespace Closing

/-- What is closed: one deal, or what is open on an instrument until an expiry. -/
inductive Target where
  | deal (dealId : String)
  | instrument (epic expiry : String)

/-- The fields of the request that settle the target are those of the part. -/
inductive Target.SaidBy (r : Closing) : Target → Prop
  | deal
      (dealId : String)
      (hdeal : r.dealId = some dealId)
      (hepic : r.epic = none) :
      SaidBy r (.deal dealId)
  | instrument
      (epic expiry : String)
      (hdeal : r.dealId = none)
      (hepic : r.epic = some epic)
      (hexpiry : r.expiry = some expiry) :
      SaidBy r (.instrument epic expiry)

/-- The fields of the request that settle the price are those of the part. -/
inductive Pays (r : Closing) : Opening.Price → Prop
  | limit
      (level : Decimal)
      (htype : r.orderType = .limit)
      (hlevel : r.level = some level)
      (hquote : r.quoteId = none) :
      Pays r (.limit level)
  | market
      (htype : r.orderType = .market)
      (hlevel : r.level = none)
      (hquote : r.quoteId = none) :
      Pays r .market
  | quote
      (level : Decimal)
      (quoteId : String)
      (htype : r.orderType = .quote)
      (hlevel : r.level = some level)
      (hquote : r.quoteId = some quoteId) :
      Pays r (.quote level quoteId)

/-- The request has one target and one price, and its fields have their forms. -/
structure IsNormal (r : Closing) : Prop where
  target : ∃! t : Target, t.SaidBy r
  price : ∃! p : Opening.Price, r.Pays p
  epic : ∀ epic, r.epic = some epic → Format.isEpic epic = true
  expiry : ∀ expiry, r.expiry = some expiry → Format.isExpiry expiry = true
  quoteId : ∀ quoteId, r.quoteId = some quoteId → Format.isQuoteId quoteId = true
  size : r.size.isDealSize = true

section Parts

variable {r : Closing}

theorem Target.SaidBy.unique
    {s t : Target} (hs : s.SaidBy r) (ht : t.SaidBy r) :
    s = t := by
  cases hs <;> cases ht <;> simp_all

theorem Pays.unique
    {p q : Opening.Price} (hp : r.Pays p) (hq : r.Pays q) :
    p = q := by
  cases hp <;> cases hq <;> simp_all

end Parts

/-- The rules on the target leave the shapes of one. -/
theorem targetRules_hold_iff (r : Closing) :
    (∀ rule ∈ targetRules, rule.holds r = true) ↔ ∃ t : Target, t.SaidBy r := by
  simp only [targetRules, List.forall_mem_cons]
  constructor
  · intro h
    cases hdeal : r.dealId with
    | some dealId => exact ⟨_, .deal dealId hdeal (by simp_all)⟩
    | none =>
        cases hepic : r.epic with
        | none => simp_all
        | some epic =>
            cases hexpiry : r.expiry with
            | none => simp_all
            | some expiry => exact ⟨_, .instrument epic expiry hdeal hepic hexpiry⟩
  · rintro ⟨t, ht⟩
    cases ht <;> simp_all

/-- The rules on level and quote leave the shapes of a price. -/
theorem pricingRules_hold_iff (r : Closing) :
    (∀ rule ∈ pricingRules, rule.holds r = true) ↔ ∃ p : Opening.Price, r.Pays p := by
  simp only [pricingRules, List.forall_mem_cons]
  constructor
  · intro h
    cases htype : r.orderType with
    | limit =>
        cases hlevel : r.level with
        | none => simp_all
        | some level => exact ⟨_, .limit level htype hlevel (by simp_all)⟩
    | market => exact ⟨_, .market htype (by simp_all) (by simp_all)⟩
    | quote =>
        cases hlevel : r.level with
        | none => simp_all
        | some level =>
            cases hquote : r.quoteId with
            | none => simp_all
            | some quoteId => exact ⟨_, .quote level quoteId htype hlevel hquote⟩
  · rintro ⟨p, hp⟩
    cases hp <;> simp_all

/-- The rules on single fields are the forms of these. -/
theorem formRules_hold_iff (r : Closing) :
    (∀ rule ∈ formRules, rule.holds r = true)
      ↔ (∀ epic, r.epic = some epic → Format.isEpic epic = true)
        ∧ (∀ expiry, r.expiry = some expiry → Format.isExpiry expiry = true)
        ∧ (∀ quoteId, r.quoteId = some quoteId → Format.isQuoteId quoteId = true)
        ∧ r.size.isDealSize = true := by
  simp [formRules, Option.all_eq_true]

/-- The table for closings leaves the normal form. -/
theorem rules_hold_iff (r : Closing) :
    (∀ rule ∈ (Checked.rules : List (Rule Closing)), rule.holds r = true) ↔ r.IsNormal := by
  simp only [Checked.rules, List.forall_mem_append]
  rw [pricingRules_hold_iff, targetRules_hold_iff, formRules_hold_iff]
  constructor
  · rintro ⟨⟨⟨p, hp⟩, t, ht⟩, hepic, hexpiry, hquote, hsize⟩
    exact
      { target := ⟨t, ht, fun _ h => h.unique ht⟩
        price := ⟨p, hp, fun _ h => h.unique hp⟩
        epic := hepic
        expiry := hexpiry
        quoteId := hquote
        size := hsize }
  · intro h
    exact ⟨⟨h.price.exists, h.target.exists⟩, h.epic, h.expiry, h.quoteId, h.size⟩

end Closing

/-! ### Amendments -/

namespace Amendment

/-- What becomes of the stop.  Unless it is guaranteed or trails, its level may be left out. -/
inductive Stop where
  | plain (level : Option Decimal)
  | guaranteed (level : Decimal)
  | trailing (level distance increment : Decimal)

/-- The fields of the request that settle the stop are those of the part. -/
inductive Stop.SaidBy (r : Amendment) : Stop → Prop
  | plain
      (hguaranteed : r.guaranteedStop = false)
      (htrailing : r.trailingStop = false)
      (hdistance : r.trailingStopDistance = none)
      (hincrement : r.trailingStopIncrement = none) :
      SaidBy r (.plain r.stopLevel)
  | guaranteed
      (level : Decimal)
      (hguaranteed : r.guaranteedStop = true)
      (htrailing : r.trailingStop = false)
      (hlevel : r.stopLevel = some level)
      (hdistance : r.trailingStopDistance = none)
      (hincrement : r.trailingStopIncrement = none) :
      SaidBy r (.guaranteed level)
  | trailing
      (level distance increment : Decimal)
      (hguaranteed : r.guaranteedStop = false)
      (htrailing : r.trailingStop = true)
      (hlevel : r.stopLevel = some level)
      (hdistance : r.trailingStopDistance = some distance)
      (hincrement : r.trailingStopIncrement = some increment) :
      SaidBy r (.trailing level distance increment)

/-- The request has one stop. -/
def IsNormal (r : Amendment) : Prop :=
  ∃! s : Stop, s.SaidBy r

theorem Stop.SaidBy.unique
    {r : Amendment} {s t : Stop} (hs : s.SaidBy r) (ht : t.SaidBy r) :
    s = t := by
  cases hs <;> cases ht <;> simp_all

theorem exists_stop
    {r : Amendment} (h : ∀ rule ∈ stopRules, rule.holds r = true) :
    ∃ s : Stop, s.SaidBy r := by
  simp only [stopRules, List.forall_mem_cons] at h
  obtain ⟨hexclusive, hguaranteed, htrailing, hsettings, -⟩ := h
  cases ht : r.trailingStop with
  | true =>
      cases hl : r.stopLevel with
      | none => simp_all
      | some level =>
          cases hd : r.trailingStopDistance with
          | none => simp_all
          | some distance =>
              cases hi : r.trailingStopIncrement with
              | none => simp_all
              | some increment =>
                  exact ⟨_, .trailing level distance increment (by simp_all) ht hl hd hi⟩
  | false =>
      have hunset : r.trailingStopDistance = none ∧ r.trailingStopIncrement = none := by
        simpa [ht] using hsettings
      cases hg : r.guaranteedStop with
      | false => exact ⟨_, .plain hg ht hunset.1 hunset.2⟩
      | true =>
          cases hl : r.stopLevel with
          | none => simp_all
          | some level => exact ⟨_, .guaranteed level hg ht hl hunset.1 hunset.2⟩

/-- The table for amendments leaves the normal form. -/
theorem rules_hold_iff (r : Amendment) :
    (∀ rule ∈ (Checked.rules : List (Rule Amendment)), rule.holds r = true) ↔ r.IsNormal := by
  constructor
  · intro h
    obtain ⟨s, hs⟩ := exists_stop h
    exact ⟨s, hs, fun _ ht => ht.unique hs⟩
  · rintro ⟨s, hs, -⟩
    simp only [Checked.rules, stopRules, List.forall_mem_cons]
    cases hs <;> simp_all

end Amendment

/-! ### Orders -/

namespace StandingTerms

/-- The stops that are set. -/
def stops (t : StandingTerms) : List Decimal :=
  t.stopLevel.toList ++ t.stopDistance.toList

/-- The limits that are set. -/
def limits (t : StandingTerms) : List Decimal :=
  t.limitLevel.toList ++ t.limitDistance.toList

/-- Stop and limit are set at most once, and the date is there if it is needed. -/
structure IsNormal (t : StandingTerms) : Prop where
  stop : t.stops.length ≤ 1
  limit : t.limits.length ≤ 1
  guaranteed : t.guaranteedStop = true → t.stops.length = 1
  dated : t.timeInForce = .goodTillDate → ∃ date, t.goodTillDate = some date
  date : ∀ date, t.goodTillDate = some date → DealDate.accepts date = true

theorem length_toList_append_le_one_iff
    {α : Type} (a b : Option α) :
    (a.toList ++ b.toList).length ≤ 1 ↔ a = none ∨ b = none := by
  cases a <;> cases b <;> simp

theorem length_toList_append_eq_one_iff
    {α : Type} (a b : Option α) :
    (a.toList ++ b.toList).length = 1 ↔ a.isSome ≠ b.isSome := by
  cases a <;> cases b <;> simp

/-- The rules that both tables for orders share leave the normal form. -/
theorem rules_hold_iff (t : StandingTerms) :
    (∀ rule ∈ rules, rule.holds t = true) ↔ t.IsNormal := by
  simp only [rules, List.forall_mem_cons]
  constructor
  · rintro ⟨hguaranteed, hlimit, hstop, hdated, hdate, -⟩
    exact
      { stop := (length_toList_append_le_one_iff _ _).2 (by simpa using hstop)
        limit := (length_toList_append_le_one_iff _ _).2 (by simpa using hlimit)
        guaranteed := fun h =>
          (length_toList_append_eq_one_iff _ _).2 (by simpa [h] using hguaranteed)
        dated := fun h => Option.isSome_iff_exists.1 (by simpa [h] using hdated)
        date := by simpa [Option.all_eq_true] using hdate }
  · intro h
    refine ⟨?_, ?_, ?_, ?_, ?_, by simp⟩
    · have hone := fun hg => (length_toList_append_eq_one_iff _ _).1 (h.guaranteed hg)
      cases hg : t.guaranteedStop <;> simp_all
    · simpa using (length_toList_append_le_one_iff _ _).1 h.limit
    · simpa using (length_toList_append_le_one_iff _ _).1 h.stop
    · have hdated := fun ht => Option.isSome_iff_exists.2 (h.dated ht)
      by_cases ht : t.timeInForce = .goodTillDate <;> simp_all
    · simpa [Option.all_eq_true] using h.date

/-- A shared rule holds of a request exactly if it holds of the terms of the request. -/
theorem forall_mem_map_on_iff
    {α : Type} (f : α → StandingTerms) (x : α) :
    (∀ rule ∈ rules.map (fun rule => rule.on f), rule.holds x = true) ↔ (f x).IsNormal := by
  rw [List.forall_mem_map, ← rules_hold_iff]
  rfl

end StandingTerms

namespace Placement

/-- The terms of the order are in normal form, and its fields have their forms. -/
structure IsNormal (r : Placement) : Prop where
  standing : r.standing.IsNormal
  currencyCode : Format.isCurrencyCode r.currencyCode = true
  epic : Format.isEpic r.epic = true
  expiry : Format.isExpiry r.expiry = true
  dealReference : ∀ reference, r.dealReference = some reference →
    Format.isDealReference reference = true
  size : r.size.isDealSize = true

/-- The rules on single fields are the forms of these. -/
theorem formRules_hold_iff (r : Placement) :
    (∀ rule ∈ formRules, rule.holds r = true)
      ↔ Format.isCurrencyCode r.currencyCode = true ∧ Format.isEpic r.epic = true
        ∧ Format.isExpiry r.expiry = true
        ∧ (∀ reference, r.dealReference = some reference →
          Format.isDealReference reference = true)
        ∧ r.size.isDealSize = true := by
  simp [formRules, Option.all_eq_true]

/-- The table for placements leaves the normal form. -/
theorem rules_hold_iff (r : Placement) :
    (∀ rule ∈ (Checked.rules : List (Rule Placement)), rule.holds r = true) ↔ r.IsNormal := by
  simp only [Checked.rules, List.forall_mem_append]
  rw [StandingTerms.forall_mem_map_on_iff, formRules_hold_iff]
  constructor
  · rintro ⟨hstanding, hcurrency, hepic, hexpiry, hreference, hsize⟩
    exact ⟨hstanding, hcurrency, hepic, hexpiry, hreference, hsize⟩
  · intro h
    exact ⟨h.standing, h.currencyCode, h.epic, h.expiry, h.dealReference, h.size⟩

end Placement

/--
A request of any kind but an opening is accepted exactly if it is in its normal form.  A
revision is nothing but its terms.
-/
theorem requests_normal_iff :
    (∀ r : Closing, Checked.validate r = .ok () ↔ r.IsNormal)
    ∧ (∀ r : Amendment, Checked.validate r = .ok () ↔ r.IsNormal)
    ∧ (∀ r : Revision, Checked.validate r = .ok () ↔ r.standing.IsNormal)
    ∧ ∀ r : Placement, Checked.validate r = .ok () ↔ r.IsNormal := by
  refine ⟨fun r => ?_, fun r => ?_, fun r => ?_, fun r => ?_⟩
  · rw [Checked.validate_eq_ok_iff_forall, Closing.rules_hold_iff]
  · rw [Checked.validate_eq_ok_iff_forall, Amendment.rules_hold_iff]
  · rw [Checked.validate_eq_ok_iff_forall]
    exact StandingTerms.forall_mem_map_on_iff Revision.standing r
  · rw [Checked.validate_eq_ok_iff_forall, Placement.rules_hold_iff]

end DealDesk
