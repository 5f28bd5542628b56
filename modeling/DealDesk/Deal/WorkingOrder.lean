import DealDesk.Deal.Kind
import DealDesk.Json.Record

/-!
# Working orders

The requests that place and revise orders waiting for a level, and the orders
that the broker reports, each with its market.
-/

namespace DealDesk

open Json

/-- The create-working-order request: one to place a working order. -/
structure Placement where
  currencyCode : String
  direction : Side
  epic : String
  expiry : String
  forceOpen : Bool
  guaranteedStop : Bool
  level : Decimal
  size : Decimal
  timeInForce : Duration
  orderType : Trigger
  dealReference : Option String
  /-- Wanted for an order that is good until a date. -/
  goodTillDate : Option String
  limitDistance : Option Decimal
  limitLevel : Option Decimal
  stopDistance : Option Decimal
  stopLevel : Option Decimal
deriving DecidableEq

namespace Placement

def fields :=
  Fields.cons (.required "currencyCode" Codec.string) <|
  Fields.cons (.required "direction" Side.codec) <|
  Fields.cons (.required "epic" Codec.string) <|
  Fields.cons (.required "expiry" Codec.string) <|
  Fields.cons (.withDefault "forceOpen" Codec.flag false) <|
  Fields.cons (.required "guaranteedStop" Codec.flag) <|
  Fields.cons (.required "level" Codec.decimal) <|
  Fields.cons (.required "size" Codec.decimal) <|
  Fields.cons (.required "timeInForce" Duration.codec) <|
  Fields.cons (.required "type" Trigger.codec) <|
  Fields.cons (.elided "dealReference" Codec.string) <|
  Fields.cons (.elided "goodTillDate" Codec.string) <|
  Fields.cons (.elided "limitDistance" Codec.decimal) <|
  Fields.cons (.elided "limitLevel" Codec.decimal) <|
  Fields.cons (.elided "stopDistance" Codec.decimal) <|
  Fields.cons (.elided "stopLevel" Codec.decimal) <|
  Fields.nil

def codec : Codec Placement :=
  (fields.codec "struct CreateWorkingOrder").imap
    (fun
      | (currencyCode, direction, epic, expiry, forceOpen, guaranteedStop, level, size,
        timeInForce, orderType, dealReference, goodTillDate, limitDistance, limitLevel,
        stopDistance, stopLevel, ()) =>
        { currencyCode, direction, epic, expiry, forceOpen, guaranteedStop, level, size,
          timeInForce, orderType, dealReference, goodTillDate, limitDistance, limitLevel,
          stopDistance, stopLevel })
    (fun r =>
      (r.currencyCode, r.direction, r.epic, r.expiry, r.forceOpen, r.guaranteedStop,
       r.level, r.size, r.timeInForce, r.orderType, r.dealReference, r.goodTillDate,
       r.limitDistance, r.limitLevel, r.stopDistance, r.stopLevel, ()))

end Placement

/-- The update-working-order request: one to revise a working order. -/
structure Revision where
  guaranteedStop : Bool
  level : Decimal
  timeInForce : Duration
  orderType : Trigger
  goodTillDate : Option String
  limitDistance : Option Decimal
  limitLevel : Option Decimal
  stopDistance : Option Decimal
  stopLevel : Option Decimal
deriving DecidableEq

namespace Revision

def fields :=
  Fields.cons (.withDefault "guaranteedStop" Codec.flag false) <|
  Fields.cons (.required "level" Codec.decimal) <|
  Fields.cons (.required "timeInForce" Duration.codec) <|
  Fields.cons (.required "type" Trigger.codec) <|
  Fields.cons (.elided "goodTillDate" Codec.string) <|
  Fields.cons (.elided "limitDistance" Codec.decimal) <|
  Fields.cons (.elided "limitLevel" Codec.decimal) <|
  Fields.cons (.elided "stopDistance" Codec.decimal) <|
  Fields.cons (.elided "stopLevel" Codec.decimal) <|
  Fields.nil

def codec : Codec Revision :=
  (fields.codec "struct UpdateWorkingOrder").imap
    (fun
      | (guaranteedStop, level, timeInForce, orderType, goodTillDate, limitDistance,
        limitLevel, stopDistance, stopLevel, ()) =>
        { guaranteedStop, level, timeInForce, orderType, goodTillDate, limitDistance,
          limitLevel, stopDistance, stopLevel })
    (fun r =>
      (r.guaranteedStop, r.level, r.timeInForce, r.orderType, r.goodTillDate,
       r.limitDistance, r.limitLevel, r.stopDistance, r.stopLevel, ()))

end Revision

/-- The working order data: a working order as the broker keeps it. -/
structure OrderTerms where
  dealId : String
  direction : Side
  epic : String
  orderSize : Decimal
  orderLevel : Decimal
  timeInForce : Duration
  goodTillDate : Option String
  goodTillDateIso : Option String
  createdDate : String
  createdDateUtc : String
  guaranteedStop : Bool
  orderType : Trigger
  stopDistance : Option Decimal
  limitDistance : Option Decimal
  currencyCode : String
  dma : Bool
  limitedRiskPremium : Option Decimal
deriving DecidableEq

namespace OrderTerms

def fields :=
  Fields.cons (.required "dealId" Codec.string) <|
  Fields.cons (.required "direction" Side.codec) <|
  Fields.cons (.required "epic" Codec.string) <|
  Fields.cons (.required "orderSize" Codec.decimal) <|
  Fields.cons (.required "orderLevel" Codec.decimal) <|
  Fields.cons (.required "timeInForce" Duration.codec) <|
  Fields.cons (.nullable "goodTillDate" Codec.string) <|
  Fields.cons (.nullable "goodTillDateISO" Codec.string) <|
  Fields.cons (.required "createdDate" Codec.string) <|
  Fields.cons (.required "createdDateUTC" Codec.string) <|
  Fields.cons (.required "guaranteedStop" Codec.flag) <|
  Fields.cons (.required "orderType" Trigger.codec) <|
  Fields.cons (.nullable "stopDistance" Codec.decimal) <|
  Fields.cons (.nullable "limitDistance" Codec.decimal) <|
  Fields.cons (.required "currencyCode" Codec.string) <|
  Fields.cons (.required "dma" Codec.flag) <|
  Fields.cons (.nullable "limitedRiskPremium" Codec.decimal) <|
  Fields.nil

def codec : Codec OrderTerms :=
  (fields.codec "struct WorkingOrderData").imap
    (fun
      | (dealId, direction, epic, orderSize, orderLevel, timeInForce, goodTillDate,
        goodTillDateIso, createdDate, createdDateUtc, guaranteedStop, orderType,
        stopDistance, limitDistance, currencyCode, dma, limitedRiskPremium, ()) =>
        { dealId, direction, epic, orderSize, orderLevel, timeInForce, goodTillDate,
          goodTillDateIso, createdDate, createdDateUtc, guaranteedStop, orderType,
          stopDistance, limitDistance, currencyCode, dma, limitedRiskPremium })
    (fun r =>
      (r.dealId, r.direction, r.epic, r.orderSize, r.orderLevel, r.timeInForce,
       r.goodTillDate, r.goodTillDateIso, r.createdDate, r.createdDateUtc, r.guaranteedStop,
       r.orderType, r.stopDistance, r.limitDistance, r.currencyCode, r.dma,
       r.limitedRiskPremium, ()))

end OrderTerms

/-- The market data of a working order. -/
structure OrderMarket where
  instrumentName : String
  exchangeId : String
  expiry : String
  marketStatus : MarketState
  epic : String
  instrumentType : Instrument
  lotSize : Decimal
  high : Decimal
  low : Decimal
  percentageChange : Decimal
  netChange : Decimal
  bid : Decimal
  offer : Decimal
  updateTime : String
  updateTimeUtc : String
  delayTime : Int64
  streamingPricesAvailable : Bool
  scalingFactor : Int64
deriving DecidableEq

namespace OrderMarket

def fields :=
  Fields.cons (.required "instrumentName" Codec.string) <|
  Fields.cons (.required "exchangeId" Codec.string) <|
  Fields.cons (.required "expiry" Codec.string) <|
  Fields.cons (.required "marketStatus" MarketState.codec) <|
  Fields.cons (.required "epic" Codec.string) <|
  Fields.cons (.required "instrumentType" Instrument.codec) <|
  Fields.cons (.required "lotSize" Codec.decimal) <|
  Fields.cons (.required "high" Codec.decimal) <|
  Fields.cons (.required "low" Codec.decimal) <|
  Fields.cons (.required "percentageChange" Codec.decimal) <|
  Fields.cons (.required "netChange" Codec.decimal) <|
  Fields.cons (.required "bid" Codec.decimal) <|
  Fields.cons (.required "offer" Codec.decimal) <|
  Fields.cons (.required "updateTime" Codec.string) <|
  Fields.cons (.required "updateTimeUTC" Codec.string) <|
  Fields.cons (.required "delayTime" Codec.int64) <|
  Fields.cons (.required "streamingPricesAvailable" Codec.flag) <|
  Fields.cons (.required "scalingFactor" Codec.int64) <|
  Fields.nil

def codec : Codec OrderMarket :=
  (fields.codec "struct MarketData").imap
    (fun
      | (instrumentName, exchangeId, expiry, marketStatus, epic, instrumentType, lotSize,
        high, low, percentageChange, netChange, bid, offer, updateTime, updateTimeUtc,
        delayTime, streamingPricesAvailable, scalingFactor, ()) =>
        { instrumentName, exchangeId, expiry, marketStatus, epic, instrumentType, lotSize,
          high, low, percentageChange, netChange, bid, offer, updateTime, updateTimeUtc,
          delayTime, streamingPricesAvailable, scalingFactor })
    (fun r =>
      (r.instrumentName, r.exchangeId, r.expiry, r.marketStatus, r.epic, r.instrumentType,
       r.lotSize, r.high, r.low, r.percentageChange, r.netChange, r.bid, r.offer,
       r.updateTime, r.updateTimeUtc, r.delayTime, r.streamingPricesAvailable,
       r.scalingFactor, ()))

end OrderMarket

/-- The working order: its data and its market. -/
structure PendingOrder where
  terms : OrderTerms
  market : OrderMarket
deriving DecidableEq

namespace PendingOrder

def fields :=
  Fields.cons (.required "workingOrderData" OrderTerms.codec) <|
  Fields.cons (.required "marketData" OrderMarket.codec) <|
  Fields.nil

def codec : Codec PendingOrder :=
  (fields.codec "struct WorkingOrder").imap
    (fun
      | (terms, market, ()) =>
        { terms, market })
    (fun r =>
      (r.terms, r.market, ()))

end PendingOrder

/-- The working orders: all of an account. -/
structure OrderBook where
  orders : List PendingOrder
deriving DecidableEq

namespace OrderBook

def fields :=
  Fields.cons (.required "workingOrders" (Codec.list PendingOrder.codec)) <|
  Fields.nil

def codec : Codec OrderBook :=
  (fields.codec "struct WorkingOrders").imap
    (fun
      | (orders, ()) =>
        { orders })
    (fun r =>
      (r.orders, ()))

end OrderBook

end DealDesk
