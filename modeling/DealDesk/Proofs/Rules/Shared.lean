import DealDesk.Proofs.Number.Decimal
import DealDesk.Proofs.Rules.Fields
import DealDesk.Proofs.Rules.Verdict

/-!
# Names that tables share

Several rules go by one name in two or three tables, and each table writes its rule out for
its own kind of request: over a field that one kind cannot do without and that another kind
may leave out, or over the part that two kinds have in common.

What a request says under the name of a member is the same thing for all kinds.  A value
that may be absent says what the value says, once it is there, and an amount says which
number it is, whatever zeros stand at its end.  A shared name then stands for one condition
on what is said, and each rule of that name asks for it.

**Results.** `RuleSet.means`: the rules of a table ask for the conditions that their names
stand for.  `Condition.settled`: a condition looks at the members that it names.
`Checked.Distinct.filter_violations`: violations can be told apart by the rules they come from.
`shared_rules_agree`: rules of one name fare the same on requests that say the same, and a
revision breaks what a placement of the same terms breaks of the rules that come first there.
-/

namespace DealDesk

open Json

/-! ### What requests say -/

/-- What may be said under the name of a member. -/
inductive Datum where
  | text (s : String)
  | flag (b : Bool)
  | amount (d : Decimal)
  /-- One of a few words. -/
  | word (name : String)
deriving DecidableEq

/-- What is said under each name; nothing under that of a member that is left out. -/
abbrev Sayings := String → Option Datum

/-- A type of values that say something. -/
class Saying (α : Type) where
  datum : α → Datum

/-- A type of values that say something, or nothing if they are absent. -/
class Telling (α : Type) where
  datum? : α → Option Datum

/-- A type of rows of such values. -/
class TellingRow (τ : Type) where
  data : τ → List (Option Datum)

instance : Saying String := ⟨.text⟩

instance : Saying Bool := ⟨.flag⟩

instance : Saying Decimal := ⟨fun d => .amount d.normalized⟩

instance : Saying Side := ⟨fun s => .word s.name⟩

instance : Saying Pricing := ⟨fun p => .word p.name⟩

instance : Saying Filling := ⟨fun f => .word f.name⟩

instance : Saying Duration := ⟨fun d => .word d.name⟩

instance : Saying Trigger := ⟨fun t => .word t.name⟩

instance {α : Type} [Saying α] : Telling α := ⟨fun v => some (Saying.datum v)⟩

instance {α : Type} [Saying α] : Telling (Option α) := ⟨Option.map Saying.datum⟩

instance : TellingRow Unit := ⟨fun _ => []⟩

instance {α τ : Type} [Telling α] [TellingRow τ] : TellingRow (α × τ) :=
  ⟨fun v => Telling.datum? v.1 :: TellingRow.data v.2⟩

/-- What a row of values says under the keys of its fields. -/
def Json.Fields.told {τ σ : Type} [TellingRow τ] (fs : Fields τ σ) (v : τ) : Sayings :=
  fun key => ((fs.keys.zip (TellingRow.data v)).lookup key).join

@[simp] theorem Json.Fields.told_cons
    {α β σ : Type} [Telling α] [TellingRow β] (f : Field α) (rest : Fields β σ) (v : α × β)
    (key : String) :
    (Fields.cons f rest).told v key
      = if key = f.key then Telling.datum? v.1 else rest.told v.2 key := by
  simp only [told, keys, TellingRow.data, List.zip_cons_cons, List.lookup_cons]
  split <;> simp_all

/-- What the request says. -/
def Opening.told (r : Opening) : Sayings :=
  Opening.fields.told (Opening.row.values r)

/-- What the request says. -/
def Closing.told (r : Closing) : Sayings :=
  Closing.fields.told (Closing.row.values r)

/-- What the request says. -/
def Amendment.told (r : Amendment) : Sayings :=
  Amendment.fields.told (Amendment.row.values r)

/-- What the request says. -/
def Placement.told (r : Placement) : Sayings :=
  Placement.fields.told (Placement.row.values r)

/-- What the request says. -/
def Revision.told (r : Revision) : Sayings :=
  Revision.fields.told (Revision.row.values r)

namespace RuleSet

/-- The requests that a table is for. -/
def Request : RuleSet → Type
  | .createPosition => Opening
  | .closePosition => Closing
  | .updatePosition => Amendment
  | .createWorkingOrder => Placement
  | .updateWorkingOrder => Revision

/-- The rules of a table. -/
def rules : (k : RuleSet) → List (Rule k.Request)
  | .createPosition => (Checked.rules : List (Rule Opening))
  | .closePosition => (Checked.rules : List (Rule Closing))
  | .updatePosition => (Checked.rules : List (Rule Amendment))
  | .createWorkingOrder => (Checked.rules : List (Rule Placement))
  | .updateWorkingOrder => (Checked.rules : List (Rule Revision))

/-- What a request says. -/
def told : (k : RuleSet) → k.Request → Sayings
  | .createPosition => Opening.told
  | .closePosition => Closing.told
  | .updatePosition => Amendment.told
  | .createWorkingOrder => Placement.told
  | .updateWorkingOrder => Revision.told

/-- Two tables at least have a rule of that name. -/
def Shared (name : String) : Prop :=
  ∃ k l : RuleSet, k ≠ l ∧ name ∈ k.describe.map Prod.fst ∧ name ∈ l.describe.map Prod.fst

end RuleSet

/-! ### Conditions on what is said -/

namespace Datum

/-- A text that fits. -/
def isText (fits : String → Bool) : Datum → Bool
  | .text s => fits s
  | _ => false

/-- An amount that fits. -/
def isAmount (fits : Decimal → Bool) : Datum → Bool
  | .amount d => fits d
  | _ => false

end Datum

/-- A condition on what requests say, and the members that it looks at. -/
structure Condition where
  name : String
  fields : List String
  holds : Sayings → Bool

namespace Condition

/-- What is said under a name fits, if anything is. -/
def form (name field : String) (fits : Datum → Bool) : Condition :=
  ⟨name, [field], fun s => (s field).all fits⟩

/-- Of two members one at most is there. -/
def unique (name one other : String) : Condition :=
  ⟨name, [one, other], fun s => !((s one).isSome && (s other).isSome)⟩

/-- The conditions that the shared names stand for. -/
def shared : List Condition :=
  [⟨"limit-order-without-quote", ["orderType", "quoteId"],
      fun s => s "orderType" ≠ some (.word "LIMIT") || (s "quoteId").isNone⟩,
    ⟨"limit-order-requires-level", ["orderType", "level"],
      fun s => s "orderType" ≠ some (.word "LIMIT") || (s "level").isSome⟩,
    ⟨"market-order-without-level-or-quote", ["orderType", "level", "quoteId"],
      fun s =>
        s "orderType" ≠ some (.word "MARKET")
          || ((s "level").isNone && (s "quoteId").isNone)⟩,
    ⟨"guaranteed-stop-exactly-one", ["guaranteedStop", "stopLevel", "stopDistance"],
      fun s =>
        s "guaranteedStop" ≠ some (.flag true)
          || ((s "stopLevel").isSome != (s "stopDistance").isSome)⟩,
    unique "unique-limit" "limitLevel" "limitDistance",
    unique "unique-stop" "stopLevel" "stopDistance",
    ⟨"good-till-date-required", ["timeInForce", "goodTillDate"],
      fun s => s "timeInForce" ≠ some (.word "GOOD_TILL_DATE") || (s "goodTillDate").isSome⟩,
    form "good-till-date-format" "goodTillDate" (Datum.isText DealDate.accepts),
    form "currency-code-format" "currencyCode" (Datum.isText Format.isCurrencyCode),
    form "epic-format" "epic" (Datum.isText Format.isEpic),
    form "expiry-format" "expiry" (Datum.isText Format.isExpiry),
    form "deal-reference-format" "dealReference" (Datum.isText Format.isDealReference),
    form "quote-id-format" "quoteId" (Datum.isText Format.isQuoteId),
    form "size-format" "size" (Datum.isAmount Decimal.isDealSize)]

/-- A condition looks at nothing but the members that it names. -/
theorem settled :
    ∀ c ∈ shared, ∀ s t : Sayings, (∀ key ∈ c.fields, s key = t key) → c.holds s = c.holds t := by
  simp +contextual [shared, form, unique]

/-- Each shared name stands for a condition. -/
theorem exists_of_shared
    {name : String} (h : RuleSet.Shared name) :
    ∃ c ∈ shared, name = c.name := by
  have hall : ∀ k ∈ RuleSet.all, ∀ l ∈ RuleSet.all, k ≠ l →
      ∀ name ∈ k.describe.map Prod.fst, name ∈ l.describe.map Prod.fst →
        name ∈ shared.map Condition.name := by
    decide +kernel
  have hmem (k : RuleSet) : k ∈ RuleSet.all := by
    cases k <;> decide
  obtain ⟨k, l, hne, hk, hl⟩ := h
  obtain ⟨c, hc, hname⟩ := List.mem_map.1 (hall k (hmem k) l (hmem l) hne name hk hl)
  exact ⟨c, hc, hname.symm⟩

end Condition

/-! ### What rules ask for -/

namespace Telling

@[simp] theorem all_isText_string (fits : String → Bool) (s : String) :
    (datum? s).all (Datum.isText fits) = fits s := rfl

@[simp] theorem all_isText_optional (fits : String → Bool) (s : Option String) :
    (datum? s).all (Datum.isText fits) = s.all fits := by
  cases s <;> rfl

@[simp] theorem all_isDealSize (d : Decimal) :
    (datum? d).all (Datum.isAmount Decimal.isDealSize) = d.isDealSize :=
  d.isDealSize_normalized

@[simp] theorem isNone_optional {α : Type} [Saying α] (o : Option α) :
    (datum? o).isNone = o.isNone :=
  Option.isNone_map

@[simp] theorem isSome_optional {α : Type} [Saying α] (o : Option α) :
    (datum? o).isSome = o.isSome :=
  Option.isSome_map

@[simp] theorem datum?_eq_flag_iff (b : Bool) :
    datum? b = some (.flag true) ↔ b = true := by
  cases b <;> decide

@[simp] theorem datum?_eq_limit_iff (p : Pricing) :
    datum? p = some (.word "LIMIT") ↔ p = .limit := by
  cases p <;> decide

@[simp] theorem datum?_eq_market_iff (p : Pricing) :
    datum? p = some (.word "MARKET") ↔ p = .market := by
  cases p <;> decide

@[simp] theorem datum?_eq_goodTillDate_iff (d : Duration) :
    datum? d = some (.word "GOOD_TILL_DATE") ↔ d = .goodTillDate := by
  cases d <;> decide

end Telling

/-- The rule asks of a request for the condition on what that says. -/
structure Rule.Means {α : Type} (r : Rule α) (told : α → Sayings) (c : Condition) : Prop where
  fields : r.fields = c.fields
  holds : ∀ x, r.holds x = c.holds (told x)

theorem Rule.means_iff
    {α : Type} {r : Rule α} {told : α → Sayings} {c : Condition} :
    r.Means told c ↔ r.fields = c.fields ∧ ∀ x, r.holds x = c.holds (told x) :=
  ⟨fun h => ⟨h.fields, h.holds⟩, fun h => ⟨h.1, h.2⟩⟩

/-- Each rule of the table that has a shared name asks for the condition of that name. -/
def Checked.Means {α : Type} [Checked α] (told : α → Sayings) : Prop :=
  ∀ r ∈ (Checked.rules : List (Rule α)), ∀ c ∈ Condition.shared, r.id = c.name → r.Means told c

theorem Opening.means : Checked.Means Opening.told := by
  -- Names tell which rule goes with which condition; what is said decides the rest.
  simp only [Checked.Means, Checked.rules, trailingRules, pricingRules, stopRules, formRules,
    List.cons_append, List.nil_append,
    List.mem_cons, List.not_mem_nil, or_false, forall_eq_or_imp, forall_eq, Condition.shared,
    Condition.form, Condition.unique, String.reduceEq, false_implies, forall_const, and_true,
    true_and, and_self]
  simp [Rule.means_iff, told, row, fields]

theorem Closing.means : Checked.Means Closing.told := by
  simp only [Checked.Means, Checked.rules, pricingRules, targetRules, formRules,
    List.cons_append, List.nil_append,
    List.mem_cons, List.not_mem_nil, or_false, forall_eq_or_imp, forall_eq, Condition.shared,
    Condition.form, Condition.unique, String.reduceEq, false_implies, forall_const, and_true,
    true_and, and_self]
  simp [Rule.means_iff, told, row, fields]

theorem Amendment.means : Checked.Means Amendment.told := by
  -- No name of this table is shared.
  simp [Checked.Means, Checked.rules, stopRules, Condition.shared, Condition.form,
    Condition.unique]

theorem Placement.means : Checked.Means Placement.told := by
  simp only [Checked.Means, Checked.rules, StandingTerms.rules, Rule.on, standing, formRules,
    List.map_cons, List.map_nil, List.cons_append, List.nil_append,
    List.mem_cons, List.not_mem_nil, or_false, forall_eq_or_imp, forall_eq, Condition.shared,
    Condition.form, Condition.unique, String.reduceEq, false_implies, forall_const, and_true,
    true_and, and_self]
  simp [Rule.means_iff, told, row, fields]

theorem Revision.means : Checked.Means Revision.told := by
  simp only [Checked.Means, Checked.rules, StandingTerms.rules, Rule.on, standing,
    List.map_cons, List.map_nil,
    List.mem_cons, List.not_mem_nil, or_false, forall_eq_or_imp, forall_eq, Condition.shared,
    Condition.form, Condition.unique, String.reduceEq, false_implies, forall_const, and_true,
    true_and, and_self]
  simp [Rule.means_iff, told, row, fields]

/-- What the rules of a table ask for under the shared names. -/
theorem RuleSet.means
    (k : RuleSet) {r : Rule k.Request} (hr : r ∈ k.rules) {c : Condition}
    (hc : c ∈ Condition.shared) (hname : r.id = c.name) :
    r.Means k.told c := by
  cases k with
  | createPosition => exact Opening.means r hr c hc hname
  | closePosition => exact Closing.means r hr c hc hname
  | updatePosition => exact Amendment.means r hr c hc hname
  | createWorkingOrder => exact Placement.means r hr c hc hname
  | updateWorkingOrder => exact Revision.means r hr c hc hname

/-- Rules that ask for one condition name the same members and fare the same. -/
theorem Rule.Means.agrees
    {α β : Type} {r : Rule α} {s : Rule β} {told : α → Sayings} {told' : β → Sayings}
    {c : Condition} (hr : r.Means told c) (hs : s.Means told' c) (hc : c ∈ Condition.shared) :
    r.fields = s.fields
      ∧ ∀ x y, (∀ key ∈ r.fields, told x key = told' y key) → r.holds x = s.holds y := by
  refine ⟨hr.fields.trans hs.fields.symm, fun x y hsame => ?_⟩
  rw [hr.holds, hs.holds]
  exact Condition.settled c hc _ _ fun key hkey => hsame key (hr.fields ▸ hkey)

/-! ### Terms of orders -/

theorem Rule.rule_of_check
    {α : Type} {r : Rule α} {x : α} {w : Violation} (h : r.check x = some w) :
    w.rule = r.id := by
  rw [Rule.check] at h
  split at h
  · cases h
  · cases h
    rfl

/-- The violations under the first names of a table are those of its first rules. -/
theorem Checked.Distinct.filter_violations
    {α : Type} [Checked α] (h : Distinct α) (n : Nat) (x : α) :
    ((violations x).filter fun w => (rules.take n : List (Rule α)).any fun r => r.id = w.rule)
      = (rules.take n : List (Rule α)).filterMap fun r => r.check x := by
  have hsplit : (rules : List (Rule α)) = rules.take n ++ rules.drop n :=
    (List.take_append_drop n rules).symm
  have hdisjoint := h
  rw [Distinct, hsplit, List.map_append, List.nodup_append] at hdisjoint
  have hkept : ∀ w ∈ (rules.take n : List (Rule α)).filterMap fun r => r.check x,
      ((rules.take n : List (Rule α)).any fun r => r.id = w.rule) = true := by
    intro w hw
    obtain ⟨r, hr, hcheck⟩ := List.mem_filterMap.1 hw
    exact List.any_eq_true.2 ⟨r, hr, decide_eq_true (Rule.rule_of_check hcheck).symm⟩
  have hdropped : ∀ w ∈ (rules.drop n : List (Rule α)).filterMap fun r => r.check x,
      ¬ ((rules.take n : List (Rule α)).any fun r => r.id = w.rule) = true := by
    intro w hw hany
    obtain ⟨r, hr, hcheck⟩ := List.mem_filterMap.1 hw
    obtain ⟨first, hfirst, hid⟩ := List.any_eq_true.1 hany
    exact hdisjoint.2.2 _ (List.mem_map_of_mem hfirst) _ (List.mem_map_of_mem hr)
      ((of_decide_eq_true hid).trans (Rule.rule_of_check hcheck))
  have hviolations : violations x
      = (rules.take n : List (Rule α)).filterMap (fun r => r.check x)
        ++ (rules.drop n : List (Rule α)).filterMap fun r => r.check x := by
    rw [violations, hsplit, List.filterMap_append, ← hsplit]
  rw [hviolations, List.filter_append, List.filter_eq_self.2 hkept,
    List.filter_eq_nil_iff.2 hdropped, List.append_nil]

namespace StandingTerms

/-- The members that hold the terms. -/
def keys : List String :=
  ["guaranteedStop", "stopLevel", "stopDistance", "limitLevel", "limitDistance", "timeInForce",
    "goodTillDate"]

/-- Each rule on the terms has a shared name and looks at nothing else. -/
theorem rules_shared :
    ∀ r ∈ rules, (∃ c ∈ Condition.shared, r.id = c.name) ∧ ∀ key ∈ r.fields, key ∈ keys := by
  decide +kernel

/-- A rule on the terms fares the same on orders of the same terms. -/
theorem check_eq
    {p : Placement} {v : Revision} (hsame : ∀ key ∈ keys, p.told key = v.told key)
    {r : Rule StandingTerms} (hr : r ∈ rules) :
    (r.on Revision.standing).check v = (r.on Placement.standing).check p := by
  obtain ⟨⟨c, hc, hname⟩, hkeys⟩ := rules_shared r hr
  have hplaced := Placement.means (r.on Placement.standing)
    (List.mem_append_left _ (List.mem_map_of_mem hr)) c hc hname
  have hrevised := Revision.means (r.on Revision.standing) (List.mem_map_of_mem hr) c hc hname
  have hholds := (hplaced.agrees hrevised hc).2 p v fun key hkey => hsame key (hkeys key hkey)
  rw [Rule.check, Rule.check, hholds]
  rfl

end StandingTerms

/--
Rules of one name that two tables share name the same members, and they both hold or both fail
of requests that say the same under these, a member that a request cannot do without being
always there.  A revision breaks those of the first five rules for placements that a placement
of the same terms breaks, in the same order.
-/
theorem shared_rules_agree :
    (∀ (k l : RuleSet) (r : Rule k.Request) (s : Rule l.Request),
      r ∈ k.rules → s ∈ l.rules → r.id = s.id → RuleSet.Shared r.id →
        r.fields = s.fields
          ∧ ∀ x y, (∀ key ∈ r.fields, k.told x key = l.told y key) → r.holds x = s.holds y)
      ∧ ∀ (p : Placement) (v : Revision),
        (∀ key ∈ StandingTerms.keys, p.told key = v.told key) →
          Checked.violations v
            = (Checked.violations p).filter fun w =>
              ((Checked.rules : List (Rule Placement)).take 5).any fun r => r.id = w.rule := by
  refine ⟨fun k l r s hr hs hid hshared => ?_, fun p v hsame => ?_⟩
  · obtain ⟨c, hc, hname⟩ := Condition.exists_of_shared hshared
    exact (k.means hr hc hname).agrees (l.means hs hc (hid.symm.trans hname)) hc
  · have hfirst : (Checked.rules : List (Rule Placement)).take 5
        = StandingTerms.rules.map fun r => r.on Placement.standing := rfl
    rw [Placement.distinct.filter_violations, hfirst, Checked.violations, List.filterMap_map]
    change (StandingTerms.rules.map _).filterMap _ = _
    rw [List.filterMap_map]
    exact List.filterMap_congr fun r hr => StandingTerms.check_eq hsame hr

/-- The sizes 1.500 and 1.50 fare the same, and a stop that is given twice is refused twice. -/
theorem shared_rules_agree_specimen :
    let thrice : Opening := .market "CS.DAX" .buy ⟨false, 1500, 3, by decide, by decide⟩ "EUR"
    let twice : Closing := .market "D" .sell ⟨false, 150, 2, by decide, by decide⟩
    let placed : Placement :=
      { Placement.plain with
        guaranteedStop := true, stopLevel := some .one, stopDistance := some .one, size := .zero }
    let revised : Revision :=
      { Revision.plain with
        guaranteedStop := true, stopLevel := some .one, stopDistance := some .one }
    (Opening.formRules[5].holds thrice = Closing.formRules[3].holds twice
        ∧ Opening.formRules[5].holds thrice = true)
      ∧ (Checked.violations revised
          = (Checked.violations placed).filter fun w =>
            ((Checked.rules : List (Rule Placement)).take 5).any fun r => r.id = w.rule)
      ∧ (Checked.violations placed).map Violation.rule
          = ["guaranteed-stop-exactly-one", "unique-stop", "size-format"]
      ∧ (Checked.violations revised).map Violation.rule
          = ["guaranteed-stop-exactly-one", "unique-stop"] := by
  intro thrice twice placed revised
  have hsizes := (shared_rules_agree.1 .createPosition .closePosition
    Opening.formRules[5] Closing.formRules[3] (List.mem_append_right _ (List.getElem_mem _))
    (List.mem_append_right _ (List.getElem_mem _)) rfl
    ⟨.createPosition, .closePosition, by decide, by decide +kernel, by decide +kernel⟩).2
  exact ⟨⟨hsizes thrice twice (by decide +kernel), by decide +kernel⟩,
    shared_rules_agree.2 placed revised (by decide +kernel), by decide +kernel,
    by decide +kernel⟩

end DealDesk
