import DealDesk.Text.Quoted

/-!
# Rules of requests

A rule is a named condition on a request.  Each kind of request has a table of
rules, and every question about a request is a walk over that table: all rules it
breaks, the first of them, whether it breaks none.

**Results.** The ways of asking agree: a request breaks no rule exactly when it is
valid, exactly when checking it succeeds, and the first violation heads the list.
-/

namespace DealDesk

/-- The rule sets: one table of rules for each kind of request. -/
inductive RuleSet where
  | createPosition
  | closePosition
  | updatePosition
  | createWorkingOrder
  | updateWorkingOrder
deriving DecidableEq

namespace RuleSet

/-- The name under which a table is asked for. -/
def name : RuleSet → String
  | .createPosition => "create-position"
  | .closePosition => "close-position"
  | .updatePosition => "update-position"
  | .createWorkingOrder => "create-working-order"
  | .updateWorkingOrder => "update-working-order"

/-- All tables in their order. -/
def all : List RuleSet :=
  [.createPosition, .closePosition, .updatePosition, .createWorkingOrder,
    .updateWorkingOrder]

/-- The table with a name. -/
def ofName? (s : String) : Option RuleSet :=
  all.find? fun r => r.name = s

/-- What is said of a name that no table has. -/
def unknownName (s : String) : String :=
  "unknown rule set '" ++ s ++ "' (expected one of: "
    ++ String.intercalate ", " (all.map name) ++ ")"

theorem ofName?_name (r : RuleSet) : ofName? r.name = some r := by
  cases r <;> decide

end RuleSet

/-- A named condition on requests. -/
structure Rule (α : Type) where
  id : String
  /-- The members of the request that the condition looks at. -/
  fields : List String
  message : String
  holds : α → Bool

/-- A rule violation: a rule that a request breaks. -/
structure Violation where
  rule : String
  fields : List String
  message : String
deriving DecidableEq

namespace Violation

/-- Name, members and message on one line. -/
def line (v : Violation) : String :=
  v.rule ++ " [" ++ String.intercalate ", " v.fields ++ "]: " ++ v.message

end Violation

namespace Rule

/-- The violation of the rule, if the request breaks it. -/
def check {α : Type} (r : Rule α) (x : α) : Option Violation :=
  if r.holds x then none else some ⟨r.id, r.fields, r.message⟩

/-- Name and members of the rule, for diagnostics. -/
def diagnostic {α : Type} (r : Rule α) : String :=
  "Rule \x7b id: " ++ Text.quoted r.id ++ ", fields: ["
    ++ String.intercalate ", " (r.fields.map Text.quoted) ++ "] \x7d"

/-- The same condition on the part of a request that `f` shows. -/
def on {α β : Type} (r : Rule α) (f : β → α) : Rule β :=
  ⟨r.id, r.fields, r.message, fun x => r.holds (f x)⟩

end Rule

/-- The validation error of a request that breaks rules. -/
structure Invalid where
  ruleSet : RuleSet
  violations : List Violation
deriving DecidableEq

namespace Invalid

/-- The first message, and how many more there are. -/
def summary : List Violation → String
  | [] => "no violations"
  | [v] => v.message
  | v :: r => v.message ++ " (and " ++ toString r.length ++ " more)"

/-- What is said of a request that breaks rules. -/
def message (e : Invalid) : String :=
  "Invalid " ++ e.ruleSet.name ++ " request: " ++ summary e.violations

/-- The rule of that name is broken. -/
def hasRule (e : Invalid) (id : String) : Bool :=
  e.violations.any fun v => v.rule = id

end Invalid

/-- A kind of request that can be validated, with its table of rules. -/
class Checked (α : Type) where
  ruleSet : RuleSet
  rules : List (Rule α)

namespace Checked

variable {α : Type} [Checked α]

/-- The rules that a request breaks, in the order of the table. -/
def violations (x : α) : List Violation :=
  (rules : List (Rule α)).filterMap fun r => r.check x

/-- The first rule that a request breaks. -/
def firstViolation? (x : α) : Option Violation :=
  (rules : List (Rule α)).findSome? fun r => r.check x

/-- The request breaks no rule. -/
def isValid (x : α) : Bool :=
  (rules : List (Rule α)).all fun r => r.holds x

/-- The request is refused with all rules that it breaks. -/
def validate (x : α) : Except Invalid Unit :=
  match violations x with
  | [] => .ok ()
  | v :: r => .error ⟨ruleSet α, v :: r⟩

/-- Name and message of each rule. -/
def describe (α : Type) [Checked α] : List (String × String) :=
  (rules : List (Rule α)).map fun r => (r.id, r.message)

/-- Name and members of each rule, for diagnostics. -/
def diagnostics (α : Type) [Checked α] : List String :=
  (rules : List (Rule α)).map Rule.diagnostic

theorem firstViolation?_eq_head? (x : α) :
    firstViolation? x = (violations x).head? := by
  unfold firstViolation? violations
  generalize (rules : List (Rule α)) = table
  induction table with
  | nil => rfl
  | cons r table ih =>
      rw [List.findSome?_cons, List.filterMap_cons]
      cases r.check x with
      | none => exact ih
      | some v => rfl

theorem violations_eq_nil_iff (x : α) :
    violations x = [] ↔ isValid x = true := by
  unfold violations isValid
  generalize (rules : List (Rule α)) = table
  simp [List.filterMap_eq_nil_iff, Rule.check]

theorem validate_eq_ok_iff (x : α) :
    validate x = .ok () ↔ violations x = [] := by
  unfold validate
  cases violations x <;> simp

end Checked
end DealDesk
