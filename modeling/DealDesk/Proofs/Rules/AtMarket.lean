import DealDesk.Proofs.Rules.Shapes
import DealDesk.Proofs.Rules.Verdict

/-!
# Requests at the market

A request to open or to close at the market is made of a few values, and its other fields are
filled in.  Its price is the market and there is neither a stop nor a limit, so it satisfies
every rule that ties fields together, whatever it is made of.  What is left of each table are
the rules on the form of these values.

**Results.** `Checked.rule_violations`: the names of the broken rules, read off the table.
`Opening.rule_violations_market` and `Closing.rule_violations_market`: which rules the two
requests can break.  `market_requests_checked`: with the request that closes a whole position.
-/

namespace DealDesk

/-- The names of the tests that fail. -/
def failed (tests : List (String × Bool)) : List String :=
  (tests.filter fun t => !t.2).map Prod.fst

theorem failed_append (a b : List (String × Bool)) :
    failed (a ++ b) = failed a ++ failed b := by
  rw [failed, List.filter_append, List.map_append]
  rfl

theorem failed_cons (name : String) (passes : Bool) (tests : List (String × Bool)) :
    failed ((name, passes) :: tests)
      = if passes then failed tests else name :: failed tests := by
  cases passes <;> rfl

namespace Rule

variable {α : Type}

/-- The rules of a table as tests of one request. -/
def tests (table : List (Rule α)) (x : α) : List (String × Bool) :=
  table.map fun r => (r.id, r.holds x)

theorem tests_append (a b : List (Rule α)) (x : α) :
    tests (a ++ b) x = tests a x ++ tests b x :=
  List.map_append

/-- A table of rules that all hold has no test that fails. -/
theorem failed_tests_of_forall
    {table : List (Rule α)} {x : α} (h : ∀ r ∈ table, r.holds x = true) :
    failed (tests table x) = [] := by
  induction table with
  | nil => rfl
  | cons r table ih =>
      obtain ⟨hr, htable⟩ := List.forall_mem_cons.1 h
      rw [tests, List.map_cons, failed_cons, hr, if_pos rfl]
      exact ih htable

end Rule

/-- The names of the broken rules are those of the tests that fail. -/
theorem Checked.rule_violations {α : Type} [Checked α] (x : α) :
    (Checked.violations x).map Violation.rule = failed (Rule.tests Checked.rules x) := by
  rw [Checked.violations_eq_map, List.map_map, failed, Rule.tests, List.filter_map, List.map_map]
  rfl

/-! ### Openings -/

namespace Opening

section Market

variable (epic : String) (side : Side) (size : Decimal) (currencyCode : String)

/-- The rules on level and quote hold, as the price is the market. -/
theorem pricingRules_market :
    (market epic side size currencyCode).Satisfies pricingRules :=
  (pricingRules_hold_iff _).2 ⟨.market, .market rfl rfl rfl⟩

/-- The rules on stops and limits hold, as there are none. -/
theorem protectionRules_market :
    (market epic side size currencyCode).Satisfies (trailingRules ++ stopRules) :=
  (protectionRules_hold_iff _).2
    ⟨.absent none, .absent, .absent rfl rfl rfl rfl, .absent rfl rfl, fun _ => rfl⟩

/-- Of the rules on single fields, those hold whose fields are filled in. -/
theorem failed_formRules_market :
    failed (Rule.tests formRules (market epic side size currencyCode))
      = failed [("currency-code-format", Format.isCurrencyCode currencyCode),
          ("epic-format", Format.isEpic epic), ("size-format", size.isDealSize)] := by
  have hexpiry : Format.isExpiry "DFB" = true := rfl
  simp only [Rule.tests, formRules, market, List.map_cons, List.map_nil, failed_cons, hexpiry,
    Option.all_none, if_true]

theorem rule_violations_market :
    (Checked.violations (market epic side size currencyCode)).map Violation.rule
      = failed [("currency-code-format", Format.isCurrencyCode currencyCode),
          ("epic-format", Format.isEpic epic), ("size-format", size.isDealSize)] := by
  have hprotection := List.forall_mem_append.1 (protectionRules_market epic side size currencyCode)
  rw [Checked.rule_violations]
  simp only [Checked.rules, Rule.tests_append, failed_append]
  rw [Rule.failed_tests_of_forall hprotection.1,
    Rule.failed_tests_of_forall (pricingRules_market epic side size currencyCode),
    Rule.failed_tests_of_forall hprotection.2, failed_formRules_market]
  rfl

end Market

end Opening

/-! ### Closings -/

namespace Closing

section Market

variable (dealId : String) (side : Side) (size : Decimal)

theorem target_market : Target.SaidBy (market dealId side size) (.deal dealId) :=
  .deal dealId rfl rfl

theorem pays_market : (market dealId side size).Pays .market :=
  .market rfl rfl rfl

theorem rule_violations_market :
    (Checked.violations (market dealId side size)).map Violation.rule
      = failed [("size-format", size.isDealSize)] := by
  rw [Checked.rule_violations]
  simp only [Checked.rules, Rule.tests_append, failed_append]
  rw [Rule.failed_tests_of_forall ((pricingRules_hold_iff _).2 ⟨_, pays_market dealId side size⟩),
    Rule.failed_tests_of_forall ((targetRules_hold_iff _).2 ⟨_, target_market dealId side size⟩)]
  simp only [Rule.tests, formRules, market, List.map_cons, List.map_nil, failed_cons,
    Option.all_none, if_true, List.nil_append]

theorem validate_market :
    Checked.validate (market dealId side size) = .ok () ↔ size.isDealSize = true := by
  rw [Checked.validate_eq_ok_iff, ← List.map_eq_nil_iff, rule_violations_market]
  cases size.isDealSize <;> simp [failed]

end Market

end Closing

/--
A request to open at the market breaks the rules on the currency code, the instrument and the
size whose tests fail, in this order, and no others; one to close at the market breaks at most
the rule on the size.  The request that closes a whole position names its deal, goes the other
way for the same size, and is accepted exactly if that can be dealt.
-/
theorem market_requests_checked :
    (∀ (epic : String) (side : Side) (size : Decimal) (currencyCode : String),
      (Checked.violations (Opening.market epic side size currencyCode)).map Violation.rule
        = failed [("currency-code-format", Format.isCurrencyCode currencyCode),
            ("epic-format", Format.isEpic epic), ("size-format", size.isDealSize)])
      ∧ (∀ (dealId : String) (side : Side) (size : Decimal),
        (Checked.violations (Closing.market dealId side size)).map Violation.rule
          = failed [("size-format", size.isDealSize)])
      ∧ ∀ h : Holding,
        Closing.Target.SaidBy h.closing (.deal h.position.dealId) ∧ h.closing.Pays .market
          ∧ h.closing.direction ≠ h.position.direction
          ∧ h.closing.size = h.position.size
          ∧ (Checked.validate h.closing = .ok () ↔ h.position.size.isDealSize = true) := by
  refine ⟨Opening.rule_violations_market, Closing.rule_violations_market, fun h => ?_⟩
  have hother : h.closing.direction ≠ h.position.direction := by
    change h.position.direction.opposite ≠ h.position.direction
    cases h.position.direction <;> decide
  exact ⟨Closing.target_market _ _ _, Closing.pays_market _ _ _, hother, rfl,
    Closing.validate_market _ _ _⟩

end DealDesk
