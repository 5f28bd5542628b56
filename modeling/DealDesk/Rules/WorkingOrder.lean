import DealDesk.Deal.WorkingOrder
import DealDesk.Rules.Basic
import DealDesk.Rules.Format
import DealDesk.Time.DealDate

/-!
# Rules of requests on working orders

Placing and revising an order share the conditions on limit, stop and duration.
They are stated once, of the part that both requests have, and stand first in
both tables in the same order.
-/

namespace DealDesk

/-- The order terms that both requests on working orders share: limit, stop and duration. -/
structure StandingTerms where
  guaranteedStop : Bool
  stopLevel : Option Decimal
  stopDistance : Option Decimal
  limitLevel : Option Decimal
  limitDistance : Option Decimal
  timeInForce : Duration
  goodTillDate : Option String
deriving DecidableEq

namespace StandingTerms

/-- Conditions on limit, stop and duration. -/
def rules : List (Rule StandingTerms) :=
  [{ id := "guaranteed-stop-exactly-one"
     fields := ["guaranteedStop", "stopLevel", "stopDistance"]
     message :=
       "When guaranteedStop is true, specify exactly one of stopLevel or stopDistance."
     holds := fun r => !r.guaranteedStop || (r.stopLevel.isSome != r.stopDistance.isSome) },
   { id := "unique-limit"
     fields := ["limitLevel", "limitDistance"]
     message := "Set only one of limitLevel or limitDistance."
     holds := fun r => !(r.limitLevel.isSome && r.limitDistance.isSome) },
   { id := "unique-stop"
     fields := ["stopLevel", "stopDistance"]
     message := "Set only one of stopLevel or stopDistance."
     holds := fun r => !(r.stopLevel.isSome && r.stopDistance.isSome) },
   { id := "good-till-date-required"
     fields := ["timeInForce", "goodTillDate"]
     message := "timeInForce GOOD_TILL_DATE requires a goodTillDate value."
     holds := fun r => r.timeInForce ≠ .goodTillDate || r.goodTillDate.isSome },
   { id := "good-till-date-format"
     fields := ["goodTillDate"]
     message := "goodTillDate must be formatted yyyy/mm/dd hh:mm or yyyy/mm/dd hh:mm:ss."
     holds := fun r => r.goodTillDate.all DealDate.accepts }]

end StandingTerms

namespace Placement

/-- Limit, stop and duration of the order. -/
def standing (r : Placement) : StandingTerms where
  guaranteedStop := r.guaranteedStop
  stopLevel := r.stopLevel
  stopDistance := r.stopDistance
  limitLevel := r.limitLevel
  limitDistance := r.limitDistance
  timeInForce := r.timeInForce
  goodTillDate := r.goodTillDate

/-- Conditions on the form of single fields. -/
def formRules : List (Rule Placement) :=
  [{ id := "currency-code-format"
     fields := ["currencyCode"]
     message := "currencyCode must be three uppercase letters."
     holds := fun r => Format.isCurrencyCode r.currencyCode },
   { id := "epic-format"
     fields := ["epic"]
     message := "epic must be 6-30 letters, digits, '.' or '_'."
     holds := fun r => Format.isEpic r.epic },
   { id := "expiry-format"
     fields := ["expiry"]
     message := "expiry must be DFB, -, MMM-YY or DD-MMM-YY."
     holds := fun r => Format.isExpiry r.expiry },
   { id := "deal-reference-format"
     fields := ["dealReference"]
     message := "dealReference must be 1-30 letters, digits, '_', '-' or '.'."
     holds := fun r => r.dealReference.all Format.isDealReference },
   { id := "size-format"
     fields := ["size"]
     message := "size must be greater than zero with at most two decimal places."
     holds := fun r => r.size.isDealSize }]

instance : Checked Placement where
  ruleSet := .createWorkingOrder
  rules := StandingTerms.rules.map (fun rule => rule.on standing) ++ formRules

end Placement

namespace Revision

/-- Limit, stop and duration of the order. -/
def standing (r : Revision) : StandingTerms where
  guaranteedStop := r.guaranteedStop
  stopLevel := r.stopLevel
  stopDistance := r.stopDistance
  limitLevel := r.limitLevel
  limitDistance := r.limitDistance
  timeInForce := r.timeInForce
  goodTillDate := r.goodTillDate

instance : Checked Revision where
  ruleSet := .updateWorkingOrder
  rules := StandingTerms.rules.map fun rule => rule.on standing

end Revision
end DealDesk
