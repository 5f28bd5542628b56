import DealDesk.Deal.Kind
import DealDesk.Json.Record

/-!
# Receipts and confirmations

What the broker answers to a deal request, and what became of the deal.
-/

namespace DealDesk

open Json

/--
The deal reference that answers a deal request: under it the outcome can be asked for.
-/
structure Receipt where
  dealReference : String
deriving DecidableEq

namespace Receipt

def fields :=
  Fields.cons (.required "dealReference" Codec.string) <|
  Fields.nil

def codec : Codec Receipt :=
  (fields.codec "struct DealReference").imap
    (fun
      | (dealReference, ()) =>
        { dealReference })
    (fun r =>
      (r.dealReference, ()))

end Receipt

/-- The affected deal: one that another deal changed. -/
structure AffectedDeal where
  dealId : String
  status : Effect
deriving DecidableEq

namespace AffectedDeal

def fields :=
  Fields.cons (.required "dealId" Codec.string) <|
  Fields.cons (.required "status" Effect.codec) <|
  Fields.nil

def codec : Codec AffectedDeal :=
  (fields.codec "struct AffectedDeal").imap
    (fun
      | (dealId, status, ()) =>
        { dealId, status })
    (fun r =>
      (r.dealId, r.status, ()))

end AffectedDeal

/-- The deal confirmation: the outcome of a deal. -/
structure Confirmation where
  dealReference : String
  dealStatus : Verdict
  date : String
  affectedDeals : List AffectedDeal
  dealId : Option String
  direction : Option Side
  epic : Option String
  expiry : Option String
  guaranteedStop : Bool
  level : Option Decimal
  limitDistance : Option Decimal
  limitLevel : Option Decimal
  profit : Option Decimal
  profitCurrency : Option String
  /-- Why the deal was taken or not, as a code of the broker. -/
  reason : Option String
  size : Option Decimal
  status : Option PositionState
  stopDistance : Option Decimal
  stopLevel : Option Decimal
  trailingStop : Bool
deriving DecidableEq

namespace Confirmation

def fields :=
  Fields.cons (.required "dealReference" Codec.string) <|
  Fields.cons (.required "dealStatus" Verdict.codec) <|
  Fields.cons (.required "date" Codec.string) <|
  Fields.cons (.withDefault "affectedDeals" (Codec.list AffectedDeal.codec) []) <|
  Fields.cons (.nullable "dealId" Codec.string) <|
  Fields.cons (.nullable "direction" Side.codec) <|
  Fields.cons (.nullable "epic" Codec.string) <|
  Fields.cons (.nullable "expiry" Codec.string) <|
  Fields.cons (.withDefault "guaranteedStop" Codec.flag false) <|
  Fields.cons (.nullable "level" Codec.decimal) <|
  Fields.cons (.nullable "limitDistance" Codec.decimal) <|
  Fields.cons (.nullable "limitLevel" Codec.decimal) <|
  Fields.cons (.nullable "profit" Codec.decimal) <|
  Fields.cons (.nullable "profitCurrency" Codec.string) <|
  Fields.cons (.nullable "reason" Codec.string) <|
  Fields.cons (.nullable "size" Codec.decimal) <|
  Fields.cons (.nullable "status" PositionState.codec) <|
  Fields.cons (.nullable "stopDistance" Codec.decimal) <|
  Fields.cons (.nullable "stopLevel" Codec.decimal) <|
  Fields.cons (.withDefault "trailingStop" Codec.flag false) <|
  Fields.nil

def codec : Codec Confirmation :=
  (fields.codec "struct DealConfirmation").imap
    (fun
      | (dealReference, dealStatus, date, affectedDeals, dealId, direction, epic, expiry,
        guaranteedStop, level, limitDistance, limitLevel, profit, profitCurrency, reason,
        size, status, stopDistance, stopLevel, trailingStop, ()) =>
        { dealReference, dealStatus, date, affectedDeals, dealId, direction, epic, expiry,
          guaranteedStop, level, limitDistance, limitLevel, profit, profitCurrency, reason,
          size, status, stopDistance, stopLevel, trailingStop })
    (fun r =>
      (r.dealReference, r.dealStatus, r.date, r.affectedDeals, r.dealId, r.direction,
       r.epic, r.expiry, r.guaranteedStop, r.level, r.limitDistance, r.limitLevel, r.profit,
       r.profitCurrency, r.reason, r.size, r.status, r.stopDistance, r.stopLevel,
       r.trailingStop, ()))

/-- The deal was taken. -/
def isAccepted (c : Confirmation) : Bool :=
  c.dealStatus = .accepted

end Confirmation

end DealDesk
