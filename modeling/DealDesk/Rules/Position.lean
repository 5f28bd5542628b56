import DealDesk.Deal.Position
import DealDesk.Rules.Basic
import DealDesk.Rules.Format

/-!
# Rules of requests on positions

The tables for opening, closing and amending a position.  The conditions that
tie fields together come first, those on the form of a single field after them.
-/

namespace DealDesk

namespace Opening

/-- Conditions on a trailing stop. -/
def trailingRules : List (Rule Opening) :=
  [{ id := "trailing-stop-without-stop-level"
     fields := ["trailingStop", "stopLevel"]
     message := "Do not set stopLevel when trailingStop is true."
     holds := fun r => !r.trailingStop || r.stopLevel.isNone },
   { id := "trailing-stop-not-guaranteed"
     fields := ["trailingStop", "guaranteedStop"]
     message := "guaranteedStop must be false when trailingStop is true."
     holds := fun r => !(r.trailingStop && r.guaranteedStop) },
   { id := "trailing-stop-requires-distance"
     fields := ["trailingStop", "stopDistance", "trailingStopIncrement"]
     message := "Set both stopDistance and trailingStopIncrement when trailingStop is true."
     holds := fun r =>
       !r.trailingStop || (r.stopDistance.isSome && r.trailingStopIncrement.isSome) }]

/-- Conditions on level and quote, by the way the price is found. -/
def pricingRules : List (Rule Opening) :=
  [{ id := "limit-order-without-quote"
     fields := ["orderType", "quoteId"]
     message := "Do not set quoteId when orderType is LIMIT."
     holds := fun r => r.orderType ≠ .limit || r.quoteId.isNone },
   { id := "limit-order-requires-level"
     fields := ["orderType", "level"]
     message := "Set level when orderType is LIMIT."
     holds := fun r => r.orderType ≠ .limit || r.level.isSome },
   { id := "market-order-without-level-or-quote"
     fields := ["orderType", "level", "quoteId"]
     message := "Do not set level or quoteId when orderType is MARKET."
     holds := fun r => r.orderType ≠ .market || (r.level.isNone && r.quoteId.isNone) },
   { id := "quote-order-requires-level-and-quote"
     fields := ["orderType", "level", "quoteId"]
     message := "Set both level and quoteId when orderType is QUOTE."
     holds := fun r => r.orderType ≠ .quote || (r.level.isSome && r.quoteId.isSome) }]

/-- Conditions on limit and stop together. -/
def stopRules : List (Rule Opening) :=
  [{ id := "guaranteed-stop-exactly-one"
     fields := ["guaranteedStop", "stopLevel", "stopDistance"]
     message :=
       "When guaranteedStop is true, specify exactly one of stopLevel or stopDistance."
     holds := fun r => !r.guaranteedStop || (r.stopLevel.isSome != r.stopDistance.isSome) },
   { id := "force-open-required"
     fields := ["forceOpen", "limitDistance", "limitLevel", "stopDistance", "stopLevel"]
     message := "forceOpen must be true if limit or stop constraints are set."
     holds := fun r =>
       r.forceOpen
         || (r.limitDistance.isNone && r.limitLevel.isNone && r.stopDistance.isNone
           && r.stopLevel.isNone) },
   { id := "unique-limit"
     fields := ["limitLevel", "limitDistance"]
     message := "Set only one of limitLevel or limitDistance."
     holds := fun r => !(r.limitLevel.isSome && r.limitDistance.isSome) },
   { id := "unique-stop"
     fields := ["stopLevel", "stopDistance"]
     message := "Set only one of stopLevel or stopDistance."
     holds := fun r => !(r.stopLevel.isSome && r.stopDistance.isSome) }]

/-- Conditions on the form of single fields. -/
def formRules : List (Rule Opening) :=
  [{ id := "currency-code-format"
     fields := ["currencyCode"]
     message := "currencyCode must be three uppercase letters."
     holds := fun r => Format.isCurrencyCode r.currencyCode },
   { id := "epic-format"
     fields := ["epic"]
     message := "epic must be 6-30 letters, digits, '.' or '_'."
     holds := fun r => Format.isEpic r.epic },
   { id := "expiry-format"
     fields := ["expiry"]
     message := "expiry must be DFB, -, MMM-YY or DD-MMM-YY."
     holds := fun r => Format.isExpiry r.expiry },
   { id := "deal-reference-format"
     fields := ["dealReference"]
     message := "dealReference must be 1-30 letters, digits, '_', '-' or '.'."
     holds := fun r => r.dealReference.all Format.isDealReference },
   { id := "quote-id-format"
     fields := ["quoteId"]
     message := "quoteId must be alphanumeric."
     holds := fun r => r.quoteId.all Format.isQuoteId },
   { id := "size-format"
     fields := ["size"]
     message := "size must be greater than zero with at most two decimal places."
     holds := fun r => r.size.isDealSize }]

instance : Checked Opening where
  ruleSet := .createPosition
  rules := trailingRules ++ pricingRules ++ stopRules ++ formRules

end Opening

namespace Closing

/-- Conditions on level and quote, by the way the price is found. -/
def pricingRules : List (Rule Closing) :=
  [{ id := "limit-order-without-quote"
     fields := ["orderType", "quoteId"]
     message := "quoteId is not allowed when orderType is LIMIT."
     holds := fun r => r.orderType ≠ .limit || r.quoteId.isNone },
   { id := "limit-order-requires-level"
     fields := ["orderType", "level"]
     message := "level is required when orderType is LIMIT."
     holds := fun r => r.orderType ≠ .limit || r.level.isSome },
   { id := "market-order-without-level-or-quote"
     fields := ["orderType", "level", "quoteId"]
     message := "level and quoteId are not allowed when orderType is MARKET."
     holds := fun r => r.orderType ≠ .market || (r.level.isNone && r.quoteId.isNone) },
   { id := "quote-order-requires-quote"
     fields := ["orderType", "quoteId"]
     message := "quoteId is required when orderType is QUOTE."
     holds := fun r => r.orderType ≠ .quote || r.quoteId.isSome },
   { id := "quote-order-requires-level"
     fields := ["orderType", "level"]
     message := "level is required when orderType is QUOTE."
     holds := fun r => r.orderType ≠ .quote || r.level.isSome }]

/-- Conditions on what the request closes. -/
def targetRules : List (Rule Closing) :=
  [{ id := "unique-target"
     fields := ["dealId", "epic"]
     message := "Set only one of dealId or epic."
     holds := fun r => !(r.dealId.isSome && r.epic.isSome) },
   { id := "target-required"
     fields := ["dealId", "epic"]
     message := "Set one of dealId or epic."
     holds := fun r => r.dealId.isSome || r.epic.isSome },
   { id := "epic-requires-expiry"
     fields := ["epic", "expiry"]
     message := "Set expiry when epic is set."
     holds := fun r => r.epic.isNone || r.expiry.isSome }]

/-- Conditions on the form of single fields. -/
def formRules : List (Rule Closing) :=
  [{ id := "epic-format"
     fields := ["epic"]
     message := "epic must be 6-30 letters, digits, '.' or '_'."
     holds := fun r => r.epic.all Format.isEpic },
   { id := "expiry-format"
     fields := ["expiry"]
     message := "expiry must be DFB, -, MMM-YY or DD-MMM-YY."
     holds := fun r => r.expiry.all Format.isExpiry },
   { id := "quote-id-format"
     fields := ["quoteId"]
     message := "quoteId must be alphanumeric."
     holds := fun r => r.quoteId.all Format.isQuoteId },
   { id := "size-format"
     fields := ["size"]
     message := "size must be greater than zero with at most two decimal places."
     holds := fun r => r.size.isDealSize }]

instance : Checked Closing where
  ruleSet := .closePosition
  rules := pricingRules ++ targetRules ++ formRules

end Closing

namespace Amendment

/-- Conditions on a guaranteed or trailing stop. -/
def stopRules : List (Rule Amendment) :=
  [{ id := "guaranteed-and-trailing-exclusive"
     fields := ["guaranteedStop", "trailingStop"]
     message := "guaranteedStop and trailingStop cannot both be true."
     holds := fun r => !(r.guaranteedStop && r.trailingStop) },
   { id := "guaranteed-stop-requires-level"
     fields := ["guaranteedStop", "stopLevel"]
     message := "If guaranteedStop is true, then stopLevel must be set."
     holds := fun r => !r.guaranteedStop || r.stopLevel.isSome },
   { id := "trailing-stop-requires-settings"
     fields := ["trailingStop", "trailingStopDistance", "trailingStopIncrement", "stopLevel"]
     message := "If trailingStop is true, then trailingStopDistance, trailingStopIncrement, "
       ++ "and stopLevel must be set."
     holds := fun r =>
       !r.trailingStop
         || (r.trailingStopDistance.isSome && r.trailingStopIncrement.isSome
           && r.stopLevel.isSome) },
   { id := "no-trailing-settings-without-trailing-stop"
     fields := ["trailingStop", "trailingStopDistance", "trailingStopIncrement"]
     message := "If trailingStop is false, then DO NOT set trailingStopDistance or "
       ++ "trailingStopIncrement."
     holds := fun r =>
       r.trailingStop
         || (r.trailingStopDistance.isNone && r.trailingStopIncrement.isNone) }]

instance : Checked Amendment where
  ruleSet := .updatePosition
  rules := stopRules

end Amendment
end DealDesk
