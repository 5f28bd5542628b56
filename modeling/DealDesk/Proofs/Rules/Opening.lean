import DealDesk.Rules.Position
import Mathlib.Logic.ExistsUnique
import Mathlib.Tactic.Tauto

/-!
# The normal form of an opening

The table for openings ties ten fields together, and several of its rules look at the same
ones.  A request that passes them all is put together from three parts, each of a few shapes
that exclude one another: how the price is found, where the position is given up, and where
the gain is taken.

**Results.** `pricingRules_hold_iff`: the rules on level and quote leave the shapes of a
price.  `protectionRules_hold_iff`: those on stops and limits leave the shapes of these, and
force the position open unless both are absent.  `validate_eq_ok_iff_isNormal`: the requests
that break no rule are those in normal form.
-/

namespace DealDesk
namespace Opening

/-! ### The parts -/

/-- How the price is found, with what that takes. -/
inductive Price where
  | limit (level : Decimal)
  | market
  | quote (level : Decimal) (quoteId : String)

/-- Where the position is given up.  An increment may be set even if nothing trails. -/
inductive Stop where
  | absent (increment : Option Decimal)
  | level (level : Decimal) (guaranteed : Bool) (increment : Option Decimal)
  | distance (distance : Decimal) (guaranteed : Bool) (increment : Option Decimal)
  | trailing (distance increment : Decimal)

/-- Where the gain is taken. -/
inductive Limit where
  | absent
  | level (level : Decimal)
  | distance (distance : Decimal)

/-- The fields of the request that settle the price are those of the part. -/
inductive Price.SaidBy (r : Opening) : Price → Prop
  | limit
      (level : Decimal)
      (htype : r.orderType = .limit)
      (hlevel : r.level = some level)
      (hquote : r.quoteId = none) :
      SaidBy r (.limit level)
  | market
      (htype : r.orderType = .market)
      (hlevel : r.level = none)
      (hquote : r.quoteId = none) :
      SaidBy r .market
  | quote
      (level : Decimal)
      (quoteId : String)
      (htype : r.orderType = .quote)
      (hlevel : r.level = some level)
      (hquote : r.quoteId = some quoteId) :
      SaidBy r (.quote level quoteId)

/-- The fields of the request that settle the stop are those of the part. -/
inductive Stop.SaidBy (r : Opening) : Stop → Prop
  | absent
      (hguaranteed : r.guaranteedStop = false)
      (htrailing : r.trailingStop = false)
      (hlevel : r.stopLevel = none)
      (hdistance : r.stopDistance = none) :
      SaidBy r (.absent r.trailingStopIncrement)
  | level
      (level : Decimal)
      (htrailing : r.trailingStop = false)
      (hlevel : r.stopLevel = some level)
      (hdistance : r.stopDistance = none) :
      SaidBy r (.level level r.guaranteedStop r.trailingStopIncrement)
  | distance
      (distance : Decimal)
      (htrailing : r.trailingStop = false)
      (hlevel : r.stopLevel = none)
      (hdistance : r.stopDistance = some distance) :
      SaidBy r (.distance distance r.guaranteedStop r.trailingStopIncrement)
  | trailing
      (distance increment : Decimal)
      (hguaranteed : r.guaranteedStop = false)
      (htrailing : r.trailingStop = true)
      (hlevel : r.stopLevel = none)
      (hdistance : r.stopDistance = some distance)
      (hincrement : r.trailingStopIncrement = some increment) :
      SaidBy r (.trailing distance increment)

/-- The fields of the request that settle the limit are those of the part. -/
inductive Limit.SaidBy (r : Opening) : Limit → Prop
  | absent
      (hlevel : r.limitLevel = none)
      (hdistance : r.limitDistance = none) :
      SaidBy r .absent
  | level
      (level : Decimal)
      (hlevel : r.limitLevel = some level)
      (hdistance : r.limitDistance = none) :
      SaidBy r (.level level)
  | distance
      (distance : Decimal)
      (hlevel : r.limitLevel = none)
      (hdistance : r.limitDistance = some distance) :
      SaidBy r (.distance distance)

/-- There is a stop. -/
def Stop.IsPresent : Stop → Prop
  | .absent _ => False
  | _ => True

/-- There is a limit. -/
def Limit.IsPresent : Limit → Prop
  | .absent => False
  | _ => True

/-- The request has one price, one stop and one limit, and its fields have their forms. -/
structure IsNormal (r : Opening) : Prop where
  price : ∃! p : Price, p.SaidBy r
  stop : ∃! s : Stop, s.SaidBy r
  limit : ∃! l : Limit, l.SaidBy r
  /-- What has a stop or a limit is a position of its own. -/
  forced : ∀ (s : Stop) (l : Limit), s.SaidBy r → l.SaidBy r →
    s.IsPresent ∨ l.IsPresent → r.forceOpen = true
  currencyCode : Format.isCurrencyCode r.currencyCode = true
  epic : Format.isEpic r.epic = true
  expiry : Format.isExpiry r.expiry = true
  dealReference : ∀ reference, r.dealReference = some reference →
    Format.isDealReference reference = true
  quoteId : ∀ quoteId, r.quoteId = some quoteId → Format.isQuoteId quoteId = true
  size : r.size.isDealSize = true

/-! ### The shapes exclude one another -/

section Unique

variable {r : Opening}

theorem Price.SaidBy.unique
    {p q : Price} (hp : p.SaidBy r) (hq : q.SaidBy r) :
    p = q := by
  cases hp <;> cases hq <;> simp_all

theorem Stop.SaidBy.unique
    {s t : Stop} (hs : s.SaidBy r) (ht : t.SaidBy r) :
    s = t := by
  cases hs <;> cases ht <;> simp_all

theorem Limit.SaidBy.unique
    {l m : Limit} (hl : l.SaidBy r) (hm : m.SaidBy r) :
    l = m := by
  cases hl <;> cases hm <;> simp_all

end Unique

/-! ### The rules and the parts -/

/-- The request satisfies each rule of a table. -/
def Satisfies (r : Opening) (table : List (Rule Opening)) : Prop :=
  ∀ rule ∈ table, rule.holds r = true

theorem validate_eq_ok_iff_satisfies (r : Opening) :
    Checked.validate r = .ok ()
      ↔ r.Satisfies pricingRules ∧ r.Satisfies (trailingRules ++ stopRules)
        ∧ r.Satisfies formRules := by
  rw [Checked.validate_eq_ok_iff, Checked.violations_eq_nil_iff, Checked.isValid, List.all_eq_true]
  simp only [Checked.rules, Satisfies, List.forall_mem_append]
  tauto

/-- The rules on level and quote leave the shapes of a price. -/
theorem pricingRules_hold_iff (r : Opening) :
    r.Satisfies pricingRules ↔ ∃ p : Price, p.SaidBy r := by
  constructor
  · intro h
    simp only [Satisfies, pricingRules, List.forall_mem_cons] at h
    cases htype : r.orderType with
    | limit =>
        cases hlevel : r.level with
        | none => simp_all
        | some level => exact ⟨_, .limit level htype hlevel (by simp_all)⟩
    | market => exact ⟨_, .market htype (by simp_all) (by simp_all)⟩
    | quote =>
        cases hlevel : r.level with
        | none => simp_all
        | some level =>
            cases hquote : r.quoteId with
            | none => simp_all
            | some quoteId => exact ⟨_, .quote level quoteId htype hlevel hquote⟩
  · rintro ⟨p, hp⟩
    simp only [Satisfies, pricingRules, List.forall_mem_cons]
    cases hp <;> simp_all

section Protection

variable {r : Opening} (h : r.Satisfies (trailingRules ++ stopRules))

include h in
theorem exists_stop : ∃ s : Stop, s.SaidBy r := by
  simp only [Satisfies, trailingRules, stopRules, List.cons_append, List.nil_append,
    List.forall_mem_cons] at h
  -- What trails needs a distance and an increment; else level and distance settle the shape.
  obtain ⟨hlevel, hguaranteed, hdistance, hexactly, -, -, hunique, -⟩ := h
  cases htrailing : r.trailingStop with
  | true =>
      cases hd : r.stopDistance with
      | none => simp_all
      | some distance =>
          cases hi : r.trailingStopIncrement with
          | none => simp_all
          | some increment =>
              exact ⟨_, .trailing distance increment (by simp_all) htrailing (by simp_all) hd hi⟩
  | false =>
      cases hl : r.stopLevel with
      | none =>
          cases hd : r.stopDistance with
          | none => exact ⟨_, .absent (by simp_all) htrailing hl hd⟩
          | some distance => exact ⟨_, .distance distance htrailing hl hd⟩
      | some level => exact ⟨_, .level level htrailing hl (by simp_all)⟩

include h in
theorem exists_limit : ∃ l : Limit, l.SaidBy r := by
  simp only [Satisfies, trailingRules, stopRules, List.cons_append, List.nil_append,
    List.forall_mem_cons] at h
  obtain ⟨-, -, -, -, -, hunique, -⟩ := h
  cases hl : r.limitLevel with
  | none =>
      cases hd : r.limitDistance with
      | none => exact ⟨_, .absent hl hd⟩
      | some distance => exact ⟨_, .distance distance hl hd⟩
  | some level => exact ⟨_, .level level hl (by simp_all)⟩

include h in
theorem forceOpen_of_present
    {s : Stop} {l : Limit} (hs : s.SaidBy r) (hl : l.SaidBy r)
    (hpresent : s.IsPresent ∨ l.IsPresent) :
    r.forceOpen = true := by
  simp only [Satisfies, trailingRules, stopRules, List.cons_append, List.nil_append,
    List.forall_mem_cons] at h
  obtain ⟨-, -, -, -, hforce, -⟩ := h
  cases hs <;> cases hl <;> simp_all [Stop.IsPresent, Limit.IsPresent]

end Protection

/-- The rules on stops and limits leave the shapes of these, and force the position open. -/
theorem protectionRules_hold_iff (r : Opening) :
    r.Satisfies (trailingRules ++ stopRules)
      ↔ ∃ (s : Stop) (l : Limit), s.SaidBy r ∧ l.SaidBy r
        ∧ (s.IsPresent ∨ l.IsPresent → r.forceOpen = true) := by
  constructor
  · intro h
    obtain ⟨s, hs⟩ := exists_stop h
    obtain ⟨l, hl⟩ := exists_limit h
    exact ⟨s, l, hs, hl, forceOpen_of_present h hs hl⟩
  · rintro ⟨s, l, hs, hl, hforced⟩
    simp only [Satisfies, trailingRules, stopRules, List.cons_append, List.nil_append,
      List.forall_mem_cons]
    cases hs <;> cases hl <;> simp_all [Stop.IsPresent, Limit.IsPresent]

/-- The rules on single fields are the forms of these. -/
theorem formRules_hold_iff (r : Opening) :
    r.Satisfies formRules
      ↔ Format.isCurrencyCode r.currencyCode = true ∧ Format.isEpic r.epic = true
        ∧ Format.isExpiry r.expiry = true
        ∧ (∀ reference, r.dealReference = some reference →
          Format.isDealReference reference = true)
        ∧ (∀ quoteId, r.quoteId = some quoteId → Format.isQuoteId quoteId = true)
        ∧ r.size.isDealSize = true := by
  simp [Satisfies, formRules, Option.all_eq_true]

/-- A request breaks no rule exactly if it is in normal form. -/
theorem validate_eq_ok_iff_isNormal (r : Opening) :
    Checked.validate r = .ok () ↔ r.IsNormal := by
  rw [validate_eq_ok_iff_satisfies, pricingRules_hold_iff, protectionRules_hold_iff,
    formRules_hold_iff]
  constructor
  · rintro ⟨⟨p, hp⟩, ⟨s, l, hs, hl, hforced⟩, hcurrency, hepic, hexpiry, hreference, hquote,
      hsize⟩
    exact
      { price := ⟨p, hp, fun _ h => h.unique hp⟩
        stop := ⟨s, hs, fun _ h => h.unique hs⟩
        limit := ⟨l, hl, fun _ h => h.unique hl⟩
        forced := by
          intro s' l' hs' hl' hpresent
          rw [hs'.unique hs, hl'.unique hl] at hpresent
          exact hforced hpresent
        currencyCode := hcurrency
        epic := hepic
        expiry := hexpiry
        dealReference := hreference
        quoteId := hquote
        size := hsize }
  · intro h
    obtain ⟨p, hp, -⟩ := h.price
    obtain ⟨s, hs, -⟩ := h.stop
    obtain ⟨l, hl, -⟩ := h.limit
    exact ⟨⟨p, hp⟩, ⟨s, l, hs, hl, h.forced s l hs hl⟩, h.currencyCode, h.epic, h.expiry,
      h.dealReference, h.quoteId, h.size⟩

end Opening
end DealDesk
