import DealDesk.Deal.Kind
import DealDesk.Json.Record

/-!
# Positions

The requests that open, close and amend positions, and the positions that the
broker reports, each with the market it is held in.
-/

namespace DealDesk

open Json

/-- The create-position request: one to open a position. -/
structure Opening where
  currencyCode : String
  direction : Side
  /-- The instrument to deal in. -/
  epic : String
  expiry : String
  forceOpen : Bool
  guaranteedStop : Bool
  orderType : Pricing
  timeInForce : Filling
  trailingStop : Bool
  size : Decimal
  /-- A reference of the caller. -/
  dealReference : Option String
  level : Option Decimal
  limitDistance : Option Decimal
  limitLevel : Option Decimal
  quoteId : Option String
  stopDistance : Option Decimal
  stopLevel : Option Decimal
  trailingStopIncrement : Option Decimal
deriving DecidableEq

namespace Opening

def fields :=
  Fields.cons (.required "currencyCode" Codec.string) <|
  Fields.cons (.required "direction" Side.codec) <|
  Fields.cons (.required "epic" Codec.string) <|
  Fields.cons (.required "expiry" Codec.string) <|
  Fields.cons (.required "forceOpen" Codec.flag) <|
  Fields.cons (.required "guaranteedStop" Codec.flag) <|
  Fields.cons (.required "orderType" Pricing.codec) <|
  Fields.cons (.required "timeInForce" Filling.codec) <|
  Fields.cons (.required "trailingStop" Codec.flag) <|
  Fields.cons (.required "size" Codec.decimal) <|
  Fields.cons (.elided "dealReference" Codec.string) <|
  Fields.cons (.elided "level" Codec.decimal) <|
  Fields.cons (.elided "limitDistance" Codec.decimal) <|
  Fields.cons (.elided "limitLevel" Codec.decimal) <|
  Fields.cons (.elided "quoteId" Codec.string) <|
  Fields.cons (.elided "stopDistance" Codec.decimal) <|
  Fields.cons (.elided "stopLevel" Codec.decimal) <|
  Fields.cons (.elided "trailingStopIncrement" Codec.decimal) <|
  Fields.nil

def codec : Codec Opening :=
  (fields.codec "struct CreatePosition").imap
    (fun
      | (currencyCode, direction, epic, expiry, forceOpen, guaranteedStop, orderType,
        timeInForce, trailingStop, size, dealReference, level, limitDistance, limitLevel,
        quoteId, stopDistance, stopLevel, trailingStopIncrement, ()) =>
        { currencyCode, direction, epic, expiry, forceOpen, guaranteedStop, orderType,
          timeInForce, trailingStop, size, dealReference, level, limitDistance, limitLevel,
          quoteId, stopDistance, stopLevel, trailingStopIncrement })
    (fun r =>
      (r.currencyCode, r.direction, r.epic, r.expiry, r.forceOpen, r.guaranteedStop,
       r.orderType, r.timeInForce, r.trailingStop, r.size, r.dealReference, r.level,
       r.limitDistance, r.limitLevel, r.quoteId, r.stopDistance, r.stopLevel,
       r.trailingStopIncrement, ()))

/-- A plain market order with no limit and no stop. -/
def market (epic : String) (direction : Side) (size : Decimal) (currencyCode : String) :
    Opening :=
  { currencyCode, direction, epic
    expiry := "DFB"
    forceOpen := true
    guaranteedStop := false
    orderType := .market
    timeInForce := .executeAndEliminate
    trailingStop := false
    size
    dealReference := none
    level := none
    limitDistance := none
    limitLevel := none
    quoteId := none
    stopDistance := none
    stopLevel := none
    trailingStopIncrement := none }

end Opening

/--
The close-position request: one to close a position or a part of it, named by its deal or by
what it deals in.
-/
structure Closing where
  direction : Side
  orderType : Pricing
  size : Decimal
  timeInForce : Filling
  dealId : Option String
  epic : Option String
  expiry : Option String
  level : Option Decimal
  quoteId : Option String
deriving DecidableEq

namespace Closing

def fields :=
  Fields.cons (.required "direction" Side.codec) <|
  Fields.cons (.required "orderType" Pricing.codec) <|
  Fields.cons (.required "size" Codec.decimal) <|
  Fields.cons (.required "timeInForce" Filling.codec) <|
  Fields.cons (.elided "dealId" Codec.string) <|
  Fields.cons (.elided "epic" Codec.string) <|
  Fields.cons (.elided "expiry" Codec.string) <|
  Fields.cons (.elided "level" Codec.decimal) <|
  Fields.cons (.elided "quoteId" Codec.string) <|
  Fields.nil

def codec : Codec Closing :=
  (fields.codec "struct ClosePosition").imap
    (fun
      | (direction, orderType, size, timeInForce, dealId, epic, expiry, level, quoteId, ())
        =>
        { direction, orderType, size, timeInForce, dealId, epic, expiry, level, quoteId })
    (fun r =>
      (r.direction, r.orderType, r.size, r.timeInForce, r.dealId, r.epic, r.expiry, r.level,
       r.quoteId, ()))

/-- Close a deal, or a part of it, at the market. -/
def market (dealId : String) (direction : Side) (size : Decimal) : Closing :=
  { direction
    orderType := .market
    size
    timeInForce := .executeAndEliminate
    dealId := some dealId
    epic := none
    expiry := none
    level := none
    quoteId := none }

end Closing

/-- The update-position request: one to amend the limit and the stop of a position. -/
structure Amendment where
  guaranteedStop : Bool
  trailingStop : Bool
  limitLevel : Option Decimal
  stopLevel : Option Decimal
  trailingStopDistance : Option Decimal
  trailingStopIncrement : Option Decimal
deriving DecidableEq

namespace Amendment

def fields :=
  Fields.cons (.withDefault "guaranteedStop" Codec.flag false) <|
  Fields.cons (.withDefault "trailingStop" Codec.flag false) <|
  Fields.cons (.elided "limitLevel" Codec.decimal) <|
  Fields.cons (.elided "stopLevel" Codec.decimal) <|
  Fields.cons (.elided "trailingStopDistance" Codec.decimal) <|
  Fields.cons (.elided "trailingStopIncrement" Codec.decimal) <|
  Fields.nil

def codec : Codec Amendment :=
  (fields.codec "struct UpdatePosition").imap
    (fun
      | (guaranteedStop, trailingStop, limitLevel, stopLevel, trailingStopDistance,
        trailingStopIncrement, ()) =>
        { guaranteedStop, trailingStop, limitLevel, stopLevel, trailingStopDistance,
          trailingStopIncrement })
    (fun r =>
      (r.guaranteedStop, r.trailingStop, r.limitLevel, r.stopLevel, r.trailingStopDistance,
       r.trailingStopIncrement, ()))

/-- Nothing is amended. -/
def blank : Amendment :=
  ⟨false, false, none, none, none, none⟩

end Amendment

/-- The market of an open position. -/
structure Market where
  instrumentName : String
  expiry : String
  epic : String
  instrumentType : Instrument
  lotSize : Decimal
  high : Decimal
  low : Decimal
  percentageChange : Decimal
  netChange : Decimal
  bid : Decimal
  offer : Decimal
  updateTime : String
  updateTimeUtc : String
  delayTime : Int64
  streamingPricesAvailable : Bool
  marketStatus : MarketState
  scalingFactor : Int64
deriving DecidableEq

namespace Market

def fields :=
  Fields.cons (.required "instrumentName" Codec.string) <|
  Fields.cons (.required "expiry" Codec.string) <|
  Fields.cons (.required "epic" Codec.string) <|
  Fields.cons (.required "instrumentType" Instrument.codec) <|
  Fields.cons (.required "lotSize" Codec.decimal) <|
  Fields.cons (.required "high" Codec.decimal) <|
  Fields.cons (.required "low" Codec.decimal) <|
  Fields.cons (.required "percentageChange" Codec.decimal) <|
  Fields.cons (.required "netChange" Codec.decimal) <|
  Fields.cons (.required "bid" Codec.decimal) <|
  Fields.cons (.required "offer" Codec.decimal) <|
  Fields.cons (.required "updateTime" Codec.string) <|
  Fields.cons (.required "updateTimeUTC" Codec.string) <|
  Fields.cons (.required "delayTime" Codec.int64) <|
  Fields.cons (.required "streamingPricesAvailable" Codec.flag) <|
  Fields.cons (.required "marketStatus" MarketState.codec) <|
  Fields.cons (.required "scalingFactor" Codec.int64) <|
  Fields.nil

def codec : Codec Market :=
  (fields.codec "struct Market").imap
    (fun
      | (instrumentName, expiry, epic, instrumentType, lotSize, high, low, percentageChange,
        netChange, bid, offer, updateTime, updateTimeUtc, delayTime,
        streamingPricesAvailable, marketStatus, scalingFactor, ()) =>
        { instrumentName, expiry, epic, instrumentType, lotSize, high, low,
          percentageChange, netChange, bid, offer, updateTime, updateTimeUtc, delayTime,
          streamingPricesAvailable, marketStatus, scalingFactor })
    (fun r =>
      (r.instrumentName, r.expiry, r.epic, r.instrumentType, r.lotSize, r.high, r.low,
       r.percentageChange, r.netChange, r.bid, r.offer, r.updateTime, r.updateTimeUtc,
       r.delayTime, r.streamingPricesAvailable, r.marketStatus, r.scalingFactor, ()))

end Market

/-- A position as the broker keeps it. -/
structure Position where
  contractSize : Decimal
  controlledRisk : Bool
  createdDate : String
  createdDateUtc : String
  currency : String
  dealId : String
  dealReference : String
  direction : Side
  level : Decimal
  size : Decimal
  limitLevel : Option Decimal
  limitedRiskPremium : Option Decimal
  stopLevel : Option Decimal
  trailingStep : Option Decimal
  trailingStopDistance : Option Decimal
deriving DecidableEq

namespace Position

def fields :=
  Fields.cons (.required "contractSize" Codec.decimal) <|
  Fields.cons (.required "controlledRisk" Codec.flag) <|
  Fields.cons (.required "createdDate" Codec.string) <|
  Fields.cons (.required "createdDateUTC" Codec.string) <|
  Fields.cons (.required "currency" Codec.string) <|
  Fields.cons (.required "dealId" Codec.string) <|
  Fields.cons (.required "dealReference" Codec.string) <|
  Fields.cons (.required "direction" Side.codec) <|
  Fields.cons (.required "level" Codec.decimal) <|
  Fields.cons (.required "size" Codec.decimal) <|
  Fields.cons (.nullable "limitLevel" Codec.decimal) <|
  Fields.cons (.nullable "limitedRiskPremium" Codec.decimal) <|
  Fields.cons (.nullable "stopLevel" Codec.decimal) <|
  Fields.cons (.nullable "trailingStep" Codec.decimal) <|
  Fields.cons (.nullable "trailingStopDistance" Codec.decimal) <|
  Fields.nil

def codec : Codec Position :=
  (fields.codec "struct Position").imap
    (fun
      | (contractSize, controlledRisk, createdDate, createdDateUtc, currency, dealId,
        dealReference, direction, level, size, limitLevel, limitedRiskPremium, stopLevel,
        trailingStep, trailingStopDistance, ()) =>
        { contractSize, controlledRisk, createdDate, createdDateUtc, currency, dealId,
          dealReference, direction, level, size, limitLevel, limitedRiskPremium, stopLevel,
          trailingStep, trailingStopDistance })
    (fun r =>
      (r.contractSize, r.controlledRisk, r.createdDate, r.createdDateUtc, r.currency,
       r.dealId, r.dealReference, r.direction, r.level, r.size, r.limitLevel,
       r.limitedRiskPremium, r.stopLevel, r.trailingStep, r.trailingStopDistance, ()))

end Position

/-- An open position and its market. -/
structure Holding where
  position : Position
  market : Market
deriving DecidableEq

namespace Holding

def fields :=
  Fields.cons (.required "position" Position.codec) <|
  Fields.cons (.required "market" Market.codec) <|
  Fields.nil

def codec : Codec Holding :=
  (fields.codec "struct OpenPosition").imap
    (fun
      | (position, market, ()) =>
        { position, market })
    (fun r =>
      (r.position, r.market, ()))

/-- The request that closes the whole position at the market. -/
def closing (h : Holding) : Closing :=
  Closing.market h.position.dealId h.position.direction.opposite h.position.size

end Holding

/-- All open positions of an account. -/
structure Portfolio where
  positions : List Holding
deriving DecidableEq

namespace Portfolio

def fields :=
  Fields.cons (.required "positions" (Codec.list Holding.codec)) <|
  Fields.nil

def codec : Codec Portfolio :=
  (fields.codec "struct OpenPositions").imap
    (fun
      | (positions, ()) =>
        { positions })
    (fun r =>
      (r.positions, ()))

end Portfolio

end DealDesk
