import DealDesk.Rules.Position
import DealDesk.Rules.WorkingOrder

/-!
# Tickets

A ticket is a request of any of the five kinds, read from a text under the name
of its rule table.

**Results.** A ticket answers every question about rules as its request does.
-/

namespace DealDesk

open Json

/-- A trade request of any kind. -/
inductive Ticket where
  | opening (r : Opening)
  | closing (r : Closing)
  | amendment (r : Amendment)
  | placement (r : Placement)
  | revision (r : Revision)
deriving DecidableEq

namespace RuleSet

/-- Name and message of each rule of a table. -/
def describe : RuleSet → List (String × String)
  | .createPosition => Checked.describe Opening
  | .closePosition => Checked.describe Closing
  | .updatePosition => Checked.describe Amendment
  | .createWorkingOrder => Checked.describe Placement
  | .updateWorkingOrder => Checked.describe Revision

/-- Name and members of each rule of a table, for diagnostics. -/
def diagnostics : RuleSet → List String
  | .createPosition => Checked.diagnostics Opening
  | .closePosition => Checked.diagnostics Closing
  | .updatePosition => Checked.diagnostics Amendment
  | .createWorkingOrder => Checked.diagnostics Placement
  | .updateWorkingOrder => Checked.diagnostics Revision

end RuleSet

namespace Ticket

/-- The request that a text holds, read as the kind that the rule table is for. -/
def ofText (kind : RuleSet) (s : String) : Except Fault Ticket :=
  match kind with
  | .createPosition => (Opening.codec.ofText s).map opening
  | .closePosition => (Closing.codec.ofText s).map closing
  | .updatePosition => (Amendment.codec.ofText s).map amendment
  | .createWorkingOrder => (Placement.codec.ofText s).map placement
  | .updateWorkingOrder => (Revision.codec.ofText s).map revision

/-- The document of the request. -/
def document : Ticket → Doc
  | .opening r => Opening.codec.write r
  | .closing r => Closing.codec.write r
  | .amendment r => Amendment.codec.write r
  | .placement r => Placement.codec.write r
  | .revision r => Revision.codec.write r

/-- The table of rules for the request. -/
def ruleSet : Ticket → RuleSet
  | .opening _ => Checked.ruleSet Opening
  | .closing _ => Checked.ruleSet Closing
  | .amendment _ => Checked.ruleSet Amendment
  | .placement _ => Checked.ruleSet Placement
  | .revision _ => Checked.ruleSet Revision

/-- The rules that the request breaks, in the order of the table. -/
def violations : Ticket → List Violation
  | .opening r => Checked.violations r
  | .closing r => Checked.violations r
  | .amendment r => Checked.violations r
  | .placement r => Checked.violations r
  | .revision r => Checked.violations r

/-- The first rule that the request breaks. -/
def firstViolation? : Ticket → Option Violation
  | .opening r => Checked.firstViolation? r
  | .closing r => Checked.firstViolation? r
  | .amendment r => Checked.firstViolation? r
  | .placement r => Checked.firstViolation? r
  | .revision r => Checked.firstViolation? r

/-- The request breaks no rule. -/
def isValid : Ticket → Bool
  | .opening r => Checked.isValid r
  | .closing r => Checked.isValid r
  | .amendment r => Checked.isValid r
  | .placement r => Checked.isValid r
  | .revision r => Checked.isValid r

/-- The request is refused with all rules that it breaks. -/
def validate : Ticket → Except Invalid Unit
  | .opening r => Checked.validate r
  | .closing r => Checked.validate r
  | .amendment r => Checked.validate r
  | .placement r => Checked.validate r
  | .revision r => Checked.validate r

theorem firstViolation?_eq_head? (t : Ticket) :
    t.firstViolation? = t.violations.head? := by
  cases t <;> exact Checked.firstViolation?_eq_head? _

theorem violations_eq_nil_iff (t : Ticket) :
    t.violations = [] ↔ t.isValid = true := by
  cases t <;> exact Checked.violations_eq_nil_iff _

end Ticket
end DealDesk
