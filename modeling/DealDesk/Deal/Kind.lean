import DealDesk.Json.Codec

/-!
# The kinds of deals

Small sets of words in which the broker speaks of deals, each with its spelling
in documents.

**Results.** Every value is found again by its name.
-/

namespace DealDesk

open Json

/-- The direction: which way a deal goes. -/
inductive Side where
  | buy
  | sell
deriving DecidableEq

namespace Side

def name : Side → String
  | .buy => "BUY"
  | .sell => "SELL"

def all : List Side := [.buy, .sell]

def names : Codec.Names Side := ⟨name, all, none⟩

def codec : Codec Side := Codec.named names

theorem find?_name (v : Side) : names.find? v.name = some v := by
  cases v <;> decide

/-- The side that closes a position opened on this one. -/
def opposite : Side → Side
  | .buy => .sell
  | .sell => .buy

end Side

/-- The order type: how the price of a deal is found. -/
inductive Pricing where
  /-- At the level or better. -/
  | limit
  /-- At the current price. -/
  | market
  /-- At the level of a quote given before. -/
  | quote
deriving DecidableEq

namespace Pricing

def name : Pricing → String
  | .limit => "LIMIT"
  | .market => "MARKET"
  | .quote => "QUOTE"

def all : List Pricing := [.limit, .market, .quote]

def names : Codec.Names Pricing := ⟨name, all, none⟩

def codec : Codec Pricing := Codec.named names

theorem find?_name (v : Pricing) : names.find? v.name = some v := by
  cases v <;> decide

end Pricing

/--
The time in force of a position: what becomes of a deal that cannot be filled at once and in
full.
-/
inductive Filling where
  | executeAndEliminate
  | fillOrKill
deriving DecidableEq

namespace Filling

def name : Filling → String
  | .executeAndEliminate => "EXECUTE_AND_ELIMINATE"
  | .fillOrKill => "FILL_OR_KILL"

def all : List Filling := [.executeAndEliminate, .fillOrKill]

def names : Codec.Names Filling := ⟨name, all, none⟩

def codec : Codec Filling := Codec.named names

theorem find?_name (v : Filling) : names.find? v.name = some v := by
  cases v <;> decide

end Filling

/-- The instrument type: what a market trades in. -/
inductive Instrument where
  | shares
  | binary
  | bungeeCapped
  | bungeeCommodities
  | bungeeCurrencies
  | bungeeIndices
  | commodities
  | currencies
  | indices
  | knockoutsCommodities
  | knockoutsCurrencies
  | knockoutsIndices
  | knockoutsShares
  | optCommodities
  | optCurrencies
  | optIndices
  | optRates
  | optShares
  | rates
  | sectors
  | sprintMarket
  | testMarket
  /-- Any kind that is not listed. -/
  | unknown
deriving DecidableEq

namespace Instrument

def name : Instrument → String
  | .shares => "SHARES"
  | .binary => "BINARY"
  | .bungeeCapped => "BUNGEE_CAPPED"
  | .bungeeCommodities => "BUNGEE_COMMODITIES"
  | .bungeeCurrencies => "BUNGEE_CURRENCIES"
  | .bungeeIndices => "BUNGEE_INDICES"
  | .commodities => "COMMODITIES"
  | .currencies => "CURRENCIES"
  | .indices => "INDICES"
  | .knockoutsCommodities => "KNOCKOUTS_COMMODITIES"
  | .knockoutsCurrencies => "KNOCKOUTS_CURRENCIES"
  | .knockoutsIndices => "KNOCKOUTS_INDICES"
  | .knockoutsShares => "KNOCKOUTS_SHARES"
  | .optCommodities => "OPT_COMMODITIES"
  | .optCurrencies => "OPT_CURRENCIES"
  | .optIndices => "OPT_INDICES"
  | .optRates => "OPT_RATES"
  | .optShares => "OPT_SHARES"
  | .rates => "RATES"
  | .sectors => "SECTORS"
  | .sprintMarket => "SPRINT_MARKET"
  | .testMarket => "TEST_MARKET"
  | .unknown => "UNKNOWN"

def all : List Instrument := [
    .shares, .binary, .bungeeCapped, .bungeeCommodities, .bungeeCurrencies,
    .bungeeIndices, .commodities, .currencies, .indices, .knockoutsCommodities,
    .knockoutsCurrencies, .knockoutsIndices, .knockoutsShares, .optCommodities,
    .optCurrencies, .optIndices, .optRates, .optShares, .rates, .sectors, .sprintMarket,
    .testMarket]

/-- A name that is not listed is read as an unknown kind. -/
def names : Codec.Names Instrument := ⟨name, all, some .unknown⟩

def codec : Codec Instrument := Codec.named names

theorem find?_name (v : Instrument) : names.find? v.name = some v := by
  cases v <;> decide

end Instrument

/-- The market status: whether a market takes deals. -/
inductive MarketState where
  | tradeable
  | closed
  | editsOnly
  | offline
  | onAuction
  | onAuctionNoEdits
  | suspended
deriving DecidableEq

namespace MarketState

def name : MarketState → String
  | .tradeable => "TRADEABLE"
  | .closed => "CLOSED"
  | .editsOnly => "EDITS_ONLY"
  | .offline => "OFFLINE"
  | .onAuction => "ON_AUCTION"
  | .onAuctionNoEdits => "ON_AUCTION_NO_EDITS"
  | .suspended => "SUSPENDED"

def all : List MarketState := [
    .tradeable, .closed, .editsOnly, .offline, .onAuction, .onAuctionNoEdits, .suspended]

def names : Codec.Names MarketState := ⟨name, all, none⟩

def codec : Codec MarketState := Codec.named names

theorem find?_name (v : MarketState) : names.find? v.name = some v := by
  cases v <;> decide

end MarketState

/-- The working order type: which side of the market the order waits on. -/
inductive Trigger where
  | limit
  | stop
deriving DecidableEq

namespace Trigger

def name : Trigger → String
  | .limit => "LIMIT"
  | .stop => "STOP"

def all : List Trigger := [.limit, .stop]

def names : Codec.Names Trigger := ⟨name, all, none⟩

def codec : Codec Trigger := Codec.named names

theorem find?_name (v : Trigger) : names.find? v.name = some v := by
  cases v <;> decide

end Trigger

/-- The time in force of a working order: how long it waits. -/
inductive Duration where
  | goodTillCancelled
  | goodTillDate
deriving DecidableEq

namespace Duration

def name : Duration → String
  | .goodTillCancelled => "GOOD_TILL_CANCELLED"
  | .goodTillDate => "GOOD_TILL_DATE"

def all : List Duration := [.goodTillCancelled, .goodTillDate]

def names : Codec.Names Duration := ⟨name, all, none⟩

def codec : Codec Duration := Codec.named names

theorem find?_name (v : Duration) : names.find? v.name = some v := by
  cases v <;> decide

end Duration

/-- The deal status: whether a deal was taken. -/
inductive Verdict where
  | accepted
  | rejected
deriving DecidableEq

namespace Verdict

def name : Verdict → String
  | .accepted => "ACCEPTED"
  | .rejected => "REJECTED"

def all : List Verdict := [.accepted, .rejected]

def names : Codec.Names Verdict := ⟨name, all, none⟩

def codec : Codec Verdict := Codec.named names

theorem find?_name (v : Verdict) : names.find? v.name = some v := by
  cases v <;> decide

end Verdict

/-- The position status: what a deal made of its position. -/
inductive PositionState where
  | amended
  | closed
  | deleted
  | opened
  | partiallyClosed
deriving DecidableEq

namespace PositionState

def name : PositionState → String
  | .amended => "AMENDED"
  | .closed => "CLOSED"
  | .deleted => "DELETED"
  | .opened => "OPEN"
  | .partiallyClosed => "PARTIALLY_CLOSED"

def all : List PositionState := [.amended, .closed, .deleted, .opened, .partiallyClosed]

def names : Codec.Names PositionState := ⟨name, all, none⟩

def codec : Codec PositionState := Codec.named names

theorem find?_name (v : PositionState) : names.find? v.name = some v := by
  cases v <;> decide

end PositionState

/-- The status of an affected deal: what a deal did to another one. -/
inductive Effect where
  | amended
  | deleted
  | fullyClosed
  | opened
  | partiallyClosed
deriving DecidableEq

namespace Effect

def name : Effect → String
  | .amended => "AMENDED"
  | .deleted => "DELETED"
  | .fullyClosed => "FULLY_CLOSED"
  | .opened => "OPENED"
  | .partiallyClosed => "PARTIALLY_CLOSED"

def all : List Effect := [.amended, .deleted, .fullyClosed, .opened, .partiallyClosed]

def names : Codec.Names Effect := ⟨name, all, none⟩

def codec : Codec Effect := Codec.named names

theorem find?_name (v : Effect) : names.find? v.name = some v := by
  cases v <;> decide

end Effect

end DealDesk
