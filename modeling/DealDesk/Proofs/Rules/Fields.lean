import DealDesk.Rules.Ticket
import Mathlib.Logic.Function.Basic

/-!
# What rules look at

A rule says by the names of members which parts of a request it looks at.  It looks at a
member if two requests that are the same in all others can fare differently, and at no other
one if requests that are the same in those it names never do.

That a rule looks at no other member is read off its condition.  That it looks at each of
them is shown by trial: one member of a request is changed, and on one of a few requests the
rule feels it.

**Results.** `Row.eq_of_sameIn`: a record has nothing beside its members.  `Trial.exact`:
rules that are settled by the members they name, and feel the changes of a trial, name
exactly what they look at.  `fields_exact`: the rules of all tables do.
-/

namespace DealDesk

open Json

/-! ### Records by their members -/

namespace Json.Fields

/-- Two rows of values have the same value for a key. -/
def SameAt (key : String) : {τ σ : Type} → Fields τ σ → τ → τ → Prop
  | _, _, .nil, _, _ => True
  | _, _, .cons f rest, v, w => (f.key = key → v.1 = w.1) ∧ rest.SameAt key v.2 w.2

/-- Two rows of values have the same value for each key but one. -/
def SameBut (key : String) : {τ σ : Type} → Fields τ σ → τ → τ → Prop
  | _, _, .nil, _, _ => True
  | _, _, .cons f rest, v, w => (f.key ≠ key → v.1 = w.1) ∧ rest.SameBut key v.2 w.2

theorem SameBut.sameAt
    {key other : String} (hother : other ≠ key) :
    {τ σ : Type} → {fs : Fields τ σ} → {v w : τ} → fs.SameBut key v w → fs.SameAt other v w
  | _, _, .nil, _, _, _ => trivial
  | _, _, .cons _ _, _, _, h =>
      ⟨fun hkey => h.1 (hkey.trans_ne hother), SameBut.sameAt hother h.2⟩

theorem eq_of_sameAt :
    {τ σ : Type} → {fs : Fields τ σ} → {v w : τ} →
      (∀ key ∈ fs.keys, fs.SameAt key v w) → v = w
  | _, _, .nil, _, _, _ => rfl
  | _, _, .cons f _, _, _, h =>
      Prod.ext ((h f.key (List.mem_cons_self ..)).1 rfl)
        (eq_of_sameAt fun key hkey => (h key (List.mem_cons_of_mem _ hkey)).2)

end Json.Fields

@[simp] theorem Json.Field.required_key {α : Type} (key : String) (c : Codec α) :
    (Field.required key c).key = key := rfl

@[simp] theorem Json.Field.withDefault_key {α : Type} (key : String) (c : Codec α) (v : α) :
    (Field.withDefault key c v).key = key := rfl

@[simp] theorem Json.Field.elided_key {α : Type} (key : String) (c : Codec α) :
    (Field.elided key c).key = key := rfl

/-- A kind of record as the row of fields that its codec writes, with nothing left out. -/
structure Row {α : Type} (c : Codec α) where
  {τ σ : Type}
  fields : Fields τ σ
  values : α → τ
  write_eq : ∀ x, c.write x = .obj (fields.members (values x))
  values_injective : Function.Injective values

namespace Row

variable {α : Type} {c : Codec α}

/-- Two records are the same in the member with a key. -/
def SameIn (row : Row c) (key : String) (x y : α) : Prop :=
  row.fields.SameAt key (row.values x) (row.values y)

/-- Two records are the same in each member but one. -/
def SameBut (row : Row c) (key : String) (x y : α) : Prop :=
  row.fields.SameBut key (row.values x) (row.values y)

/-- Records that are the same in all members are equal. -/
theorem eq_of_sameIn {row : Row c} {x y : α}
    (h : ∀ key ∈ row.fields.keys, row.SameIn key x y) :
    x = y :=
  row.values_injective (Fields.eq_of_sameAt h)

end Row

namespace Opening

def row : Row Opening.codec where
  fields := Opening.fields
  values r :=
    (r.currencyCode, r.direction, r.epic, r.expiry, r.forceOpen, r.guaranteedStop,
      r.orderType, r.timeInForce, r.trailingStop, r.size, r.dealReference, r.level,
      r.limitDistance, r.limitLevel, r.quoteId, r.stopDistance, r.stopLevel,
      r.trailingStopIncrement, ())
  write_eq _ := rfl
  values_injective x y h := by
    cases x
    cases y
    simpa using h

end Opening

namespace Closing

def row : Row Closing.codec where
  fields := Closing.fields
  values r :=
    (r.direction, r.orderType, r.size, r.timeInForce, r.dealId, r.epic, r.expiry, r.level,
      r.quoteId, ())
  write_eq _ := rfl
  values_injective x y h := by
    cases x
    cases y
    simpa using h

end Closing

namespace Amendment

def row : Row Amendment.codec where
  fields := Amendment.fields
  values r :=
    (r.guaranteedStop, r.trailingStop, r.limitLevel, r.stopLevel, r.trailingStopDistance,
      r.trailingStopIncrement, ())
  write_eq _ := rfl
  values_injective x y h := by
    cases x
    cases y
    simpa using h

end Amendment

namespace Placement

def row : Row Placement.codec where
  fields := Placement.fields
  values r :=
    (r.currencyCode, r.direction, r.epic, r.expiry, r.forceOpen, r.guaranteedStop,
      r.level, r.size, r.timeInForce, r.orderType, r.dealReference, r.goodTillDate,
      r.limitDistance, r.limitLevel, r.stopDistance, r.stopLevel, ())
  write_eq _ := rfl
  values_injective x y h := by
    cases x
    cases y
    simpa using h

end Placement

namespace Revision

def row : Row Revision.codec where
  fields := Revision.fields
  values r :=
    (r.guaranteedStop, r.level, r.timeInForce, r.orderType, r.goodTillDate,
      r.limitDistance, r.limitLevel, r.stopDistance, r.stopLevel, ())
  write_eq _ := rfl
  values_injective x y h := by
    cases x
    cases y
    simpa using h

end Revision

/-! ### Rules and trials -/

namespace Rule

variable {α : Type} {c : Codec α}

/-- Requests that are the same in the members the rule names fare the same. -/
def Settled (row : Row c) (r : Rule α) : Prop :=
  ∀ x y, (∀ key ∈ r.fields, row.SameIn key x y) → r.holds x = r.holds y

/-- Two requests that are the same in all members but one fare differently. -/
def Feels (row : Row c) (r : Rule α) (key : String) : Prop :=
  ∃ x y, (∀ other, other ≠ key → row.SameIn other x y) ∧ r.holds x ≠ r.holds y

/-- The members that the rule names are those that it looks at. -/
structure Exact (row : Row c) (r : Rule α) : Prop where
  settled : r.Settled row
  feels_iff : ∀ key, r.Feels row key ↔ key ∈ r.fields

/-- A rule feels no member beside those that settle it. -/
theorem Settled.mem_of_feels
    {row : Row c} {r : Rule α} (h : r.Settled row) {key : String} (hfeels : r.Feels row key) :
    key ∈ r.fields := by
  obtain ⟨x, y, hsame, hne⟩ := hfeels
  by_contra hkey
  exact hne (h x y fun other hother => hsame other fun heq => hkey (heq ▸ hother))

end Rule

/--
Changes of single members, and requests on which each rule of the table feels the change of
each member it names.
-/
structure Trial {α : Type} [Checked α] {c : Codec α} (row : Row c) where
  changes : List (String × (α → α))
  probes : List α
  single : ∀ d ∈ changes, ∀ x, row.SameBut d.1 x (d.2 x)
  telling : ∀ r ∈ (Checked.rules : List (Rule α)), ∀ key ∈ r.fields, ∃ d ∈ changes,
    d.1 = key ∧ ∃ x ∈ probes, r.holds x ≠ r.holds (d.2 x)

theorem Trial.exact
    {α : Type} [Checked α] {c : Codec α} {row : Row c} (trial : Trial row)
    {r : Rule α} (hr : r ∈ (Checked.rules : List (Rule α))) (hsettled : r.Settled row) :
    r.Exact row where
  settled := hsettled
  feels_iff key := by
    refine ⟨hsettled.mem_of_feels, fun hkey => ?_⟩
    obtain ⟨d, hd, rfl, x, -, hne⟩ := trial.telling r hr key hkey
    exact ⟨x, d.2 x, fun other hother => (trial.single d hd x).sameAt hother, hne⟩

/-! ### Changes -/

/-- Something instead of nothing, and nothing instead of something. -/
def turned {α : Type} (v : α) : Option α → Option α
  | none => some v
  | some _ => none

/-- Another way of finding the price. -/
def Pricing.next : Pricing → Pricing
  | .limit => .market
  | .market => .quote
  | .quote => .limit

/-- The other way of waiting. -/
def Duration.other : Duration → Duration
  | .goodTillCancelled => .goodTillDate
  | .goodTillDate => .goodTillCancelled

/-- The size 0.00. -/
def Decimal.zero : Decimal := ⟨false, 0, 2, by decide, by decide⟩

/-- The size 1.00. -/
def Decimal.one : Decimal := ⟨false, 100, 2, by decide, by decide⟩

namespace Opening

/-- A request that breaks no rule. -/
def plain : Opening :=
  market "CS.DAX" .buy .one "EUR"

def trial : Trial row where
  changes :=
    [("currencyCode", fun r => { r with currencyCode := "" }),
      ("epic", fun r => { r with epic := "" }),
      ("expiry", fun r => { r with expiry := "" }),
      ("forceOpen", fun r => { r with forceOpen := !r.forceOpen }),
      ("guaranteedStop", fun r => { r with guaranteedStop := !r.guaranteedStop }),
      ("orderType", fun r => { r with orderType := r.orderType.next }),
      ("trailingStop", fun r => { r with trailingStop := !r.trailingStop }),
      ("size", fun r => { r with size := .zero }),
      ("dealReference", fun r => { r with dealReference := turned "" r.dealReference }),
      ("level", fun r => { r with level := turned .one r.level }),
      ("limitDistance", fun r => { r with limitDistance := turned .one r.limitDistance }),
      ("limitLevel", fun r => { r with limitLevel := turned .one r.limitLevel }),
      ("quoteId", fun r => { r with quoteId := turned "" r.quoteId }),
      ("stopDistance", fun r => { r with stopDistance := turned .one r.stopDistance }),
      ("stopLevel", fun r => { r with stopLevel := turned .one r.stopLevel }),
      ("trailingStopIncrement",
        fun r => { r with trailingStopIncrement := turned .one r.trailingStopIncrement })]
  probes :=
    [plain,
      { plain with level := some .one },
      { plain with orderType := .limit, quoteId := some "a" },
      { plain with orderType := .quote, level := some .one, quoteId := some "a" },
      { plain with orderType := .quote },
      { plain with guaranteedStop := true },
      { plain with guaranteedStop := true, trailingStop := true, stopLevel := some .one },
      { plain with
        trailingStop := true, stopDistance := some .one, trailingStopIncrement := some .one },
      { plain with forceOpen := false },
      { plain with forceOpen := false, limitLevel := some .one, limitDistance := some .one },
      { plain with stopLevel := some .one, stopDistance := some .one }]
  single := by
    simp [Row.SameBut, Fields.SameBut, row, fields]
  telling := by
    decide +kernel

theorem settled :
    ∀ r ∈ (Checked.rules : List (Rule Opening)), r.Settled row := by
  -- A condition reads the request in the members of its rule only, so equal members rewrite it.
  simp +contextual only [Checked.rules, trailingRules, pricingRules, stopRules, formRules,
    List.cons_append, List.nil_append, List.mem_cons, List.not_mem_nil, or_false, forall_eq_or_imp,
    forall_eq, Rule.Settled, Row.SameIn, Fields.SameAt, row, fields, Field.required_key,
    Field.elided_key, String.reduceEq, forall_const, false_implies, and_true, true_and, and_self,
    implies_true]

end Opening

namespace Closing

def trial : Trial row where
  changes :=
    [("orderType", fun r => { r with orderType := r.orderType.next }),
      ("size", fun r => { r with size := .zero }),
      ("dealId", fun r => { r with dealId := turned "" r.dealId }),
      ("epic", fun r => { r with epic := turned "" r.epic }),
      ("expiry", fun r => { r with expiry := turned "" r.expiry }),
      ("level", fun r => { r with level := turned .one r.level }),
      ("quoteId", fun r => { r with quoteId := turned "" r.quoteId })]
  probes :=
    [market "D" .sell .one,
      { market "D" .sell .one with epic := some "CS.DAX" },
      { market "D" .sell .one with level := some .one },
      { market "D" .sell .one with orderType := .limit, quoteId := some "a" },
      { market "D" .sell .one with orderType := .quote },
      { market "D" .sell .one with dealId := none }]
  single := by
    simp [Row.SameBut, Fields.SameBut, row, fields]
  telling := by
    decide +kernel

theorem settled :
    ∀ r ∈ (Checked.rules : List (Rule Closing)), r.Settled row := by
  simp +contextual only [Checked.rules, pricingRules, targetRules, formRules,
    List.cons_append, List.nil_append, List.mem_cons, List.not_mem_nil, or_false, forall_eq_or_imp,
    forall_eq, Rule.Settled, Row.SameIn, Fields.SameAt, row, fields, Field.required_key,
    Field.elided_key, String.reduceEq, forall_const, false_implies, and_true, true_and, and_self,
    implies_true]

end Closing

namespace Amendment

def trial : Trial row where
  changes :=
    [("guaranteedStop", fun r => { r with guaranteedStop := !r.guaranteedStop }),
      ("trailingStop", fun r => { r with trailingStop := !r.trailingStop }),
      ("stopLevel", fun r => { r with stopLevel := turned .one r.stopLevel }),
      ("trailingStopDistance",
        fun r => { r with trailingStopDistance := turned .one r.trailingStopDistance }),
      ("trailingStopIncrement",
        fun r => { r with trailingStopIncrement := turned .one r.trailingStopIncrement })]
  probes :=
    [blank,
      { blank with guaranteedStop := true, trailingStop := true },
      { blank with trailingStopDistance := some .one },
      { blank with
        trailingStop := true, stopLevel := some .one, trailingStopDistance := some .one,
        trailingStopIncrement := some .one }]
  single := by
    simp [Row.SameBut, Fields.SameBut, row, fields]
  telling := by
    decide +kernel

theorem settled :
    ∀ r ∈ (Checked.rules : List (Rule Amendment)), r.Settled row := by
  simp +contextual only [Checked.rules, stopRules, List.mem_cons, List.not_mem_nil, or_false,
    forall_eq_or_imp, forall_eq, Rule.Settled, Row.SameIn, Fields.SameAt, row, fields,
    Field.withDefault_key, Field.elided_key, String.reduceEq, forall_const, false_implies,
    and_true, true_and, and_self, implies_true]

end Amendment

namespace Placement

/-- A request that breaks no rule. -/
def plain : Placement where
  currencyCode := "EUR"
  direction := .buy
  epic := "CS.DAX"
  expiry := "DFB"
  forceOpen := false
  guaranteedStop := false
  level := .one
  size := .one
  timeInForce := .goodTillCancelled
  orderType := .limit
  dealReference := none
  goodTillDate := none
  limitDistance := none
  limitLevel := none
  stopDistance := none
  stopLevel := none

def trial : Trial row where
  changes :=
    [("currencyCode", fun r => { r with currencyCode := "" }),
      ("epic", fun r => { r with epic := "" }),
      ("expiry", fun r => { r with expiry := "" }),
      ("guaranteedStop", fun r => { r with guaranteedStop := !r.guaranteedStop }),
      ("size", fun r => { r with size := .zero }),
      ("timeInForce", fun r => { r with timeInForce := r.timeInForce.other }),
      ("dealReference", fun r => { r with dealReference := turned "" r.dealReference }),
      ("goodTillDate", fun r => { r with goodTillDate := turned "" r.goodTillDate }),
      ("limitDistance", fun r => { r with limitDistance := turned .one r.limitDistance }),
      ("limitLevel", fun r => { r with limitLevel := turned .one r.limitLevel }),
      ("stopDistance", fun r => { r with stopDistance := turned .one r.stopDistance }),
      ("stopLevel", fun r => { r with stopLevel := turned .one r.stopLevel })]
  probes :=
    [plain,
      { plain with guaranteedStop := true, timeInForce := .goodTillDate },
      { plain with
        limitLevel := some .one, limitDistance := some .one, stopLevel := some .one,
        stopDistance := some .one }]
  single := by
    simp [Row.SameBut, Fields.SameBut, row, fields]
  telling := by
    decide +kernel

theorem settled :
    ∀ r ∈ (Checked.rules : List (Rule Placement)), r.Settled row := by
  simp +contextual only [Checked.rules, StandingTerms.rules, formRules, standing, Rule.on,
    List.map_cons, List.map_nil, List.cons_append, List.nil_append, List.mem_cons,
    List.not_mem_nil, or_false, forall_eq_or_imp, forall_eq, Rule.Settled, Row.SameIn,
    Fields.SameAt, row, fields, Field.required_key, Field.elided_key, String.reduceEq,
    forall_const, false_implies, and_true, true_and, and_self, implies_true]

end Placement

namespace Revision

/-- A request that breaks no rule. -/
def plain : Revision :=
  ⟨false, .one, .goodTillCancelled, .limit, none, none, none, none, none⟩

def trial : Trial row where
  changes :=
    [("guaranteedStop", fun r => { r with guaranteedStop := !r.guaranteedStop }),
      ("timeInForce", fun r => { r with timeInForce := r.timeInForce.other }),
      ("goodTillDate", fun r => { r with goodTillDate := turned "" r.goodTillDate }),
      ("limitDistance", fun r => { r with limitDistance := turned .one r.limitDistance }),
      ("limitLevel", fun r => { r with limitLevel := turned .one r.limitLevel }),
      ("stopDistance", fun r => { r with stopDistance := turned .one r.stopDistance }),
      ("stopLevel", fun r => { r with stopLevel := turned .one r.stopLevel })]
  probes :=
    [plain,
      { plain with guaranteedStop := true, timeInForce := .goodTillDate },
      { plain with
        limitLevel := some .one, limitDistance := some .one, stopLevel := some .one,
        stopDistance := some .one }]
  single := by
    simp [Row.SameBut, Fields.SameBut, row, fields]
  telling := by
    decide +kernel

theorem settled :
    ∀ r ∈ (Checked.rules : List (Rule Revision)), r.Settled row := by
  simp +contextual only [Checked.rules, StandingTerms.rules, standing, Rule.on, List.map_cons,
    List.map_nil, List.mem_cons, List.not_mem_nil, or_false, forall_eq_or_imp, forall_eq,
    Rule.Settled, Row.SameIn, Fields.SameAt, row, fields, Field.required_key,
    Field.withDefault_key, Field.elided_key, String.reduceEq, forall_const, false_implies,
    and_true, true_and, and_self, implies_true]

end Revision

/--
Each rule of each table names exactly the members that it looks at: requests of the kind that
are the same in these fare the same, whatever else they differ in, and of each of them there
are two requests that differ in it alone and fare differently.
-/
theorem fields_exact :
    (∀ r ∈ (Checked.rules : List (Rule Opening)), r.Exact Opening.row)
      ∧ (∀ r ∈ (Checked.rules : List (Rule Closing)), r.Exact Closing.row)
      ∧ (∀ r ∈ (Checked.rules : List (Rule Amendment)), r.Exact Amendment.row)
      ∧ (∀ r ∈ (Checked.rules : List (Rule Placement)), r.Exact Placement.row)
      ∧ ∀ r ∈ (Checked.rules : List (Rule Revision)), r.Exact Revision.row :=
  ⟨fun r hr => Opening.trial.exact hr (Opening.settled r hr),
    fun r hr => Closing.trial.exact hr (Closing.settled r hr),
    fun r hr => Amendment.trial.exact hr (Amendment.settled r hr),
    fun r hr => Placement.trial.exact hr (Placement.settled r hr),
    fun r hr => Revision.trial.exact hr (Revision.settled r hr)⟩

end DealDesk
