import DealDesk.Deal.Confirmation
import DealDesk.Deal.Position
import DealDesk.Deal.WorkingOrder
import DealDesk.Report.Table

/-!
# Reports on deals

The tables of open positions and of working orders, and the lines that tell what
became of a deal.
-/

namespace DealDesk

open Report

namespace Portfolio

/-- The columns of the table of positions. -/
def columns : List Column :=
  [⟨"DEAL ID", 18, .left⟩, ⟨"MARKET", nameWidth, .left⟩, ⟨"DIR", 4, .left⟩,
    ⟨"SIZE", 8, .right⟩, ⟨"LEVEL", 10, .right⟩, ⟨"STOP", 10, .right⟩, ⟨"LIMIT", 10, .right⟩]

/-- The cells of a position. -/
def cells (h : Holding) : List String :=
  [h.position.dealId, Text.shorten h.market.instrumentName nameWidth,
    h.position.direction.name, h.position.size.text, h.position.level.text,
    levelText h.position.stopLevel, levelText h.position.limitLevel]

/-- A line of titles and a line for each position. -/
def table (p : Portfolio) : String :=
  Report.table columns (p.positions.map cells)

end Portfolio

namespace OrderBook

/-- The columns of the table of orders. -/
def columns : List Column :=
  [⟨"DEAL ID", 18, .left⟩, ⟨"MARKET", nameWidth, .left⟩, ⟨"DIR", 4, .left⟩,
    ⟨"TYPE", 6, .left⟩, ⟨"SIZE", 8, .right⟩, ⟨"LEVEL", 10, .right⟩,
    ⟨"TIME IN FORCE", 0, .last⟩]

/-- How long an order stands: the kind of its duration, and its last day if it has one. -/
def duration (t : OrderTerms) : String :=
  match t.goodTillDate with
  | none => t.timeInForce.name
  | some day => t.timeInForce.name ++ " " ++ day

/-- The cells of an order. -/
def cells (o : PendingOrder) : List String :=
  [o.terms.dealId, Text.shorten o.market.instrumentName nameWidth,
    o.terms.direction.name, o.terms.orderType.name, o.terms.orderSize.text,
    o.terms.orderLevel.text, duration o.terms]

/-- A line of titles and a line for each order. -/
def table (b : OrderBook) : String :=
  Report.table columns (b.orders.map cells)

end OrderBook

namespace Confirmation

/-- The reason, if the broker gave one. -/
def reasonLine (c : Confirmation) : List String :=
  match c.reason with
  | none => []
  | some reason => ["  reason:  " ++ reason]

/-- The deal and the state of its position, if a deal was made. -/
def dealLine (c : Confirmation) : List String :=
  match c.dealId, c.status with
  | none, _ => []
  | some deal, none => ["  deal:    " ++ deal]
  | some deal, some state => ["  deal:    " ++ deal ++ " (" ++ state.name ++ ")"]

/-- What was dealt in, and which way. -/
def orderLine (c : Confirmation) : List String :=
  match c.epic, c.direction with
  | some epic, some side =>
      ["  order:   " ++ side.name ++ " " ++ levelText c.size ++ " " ++ epic ++ " @ "
        ++ levelText c.level]
  | _, _ => []

/-- Another deal that was affected. -/
def affectedLine (d : AffectedDeal) : String :=
  "  affects: " ++ d.dealId ++ " " ++ d.status.name

/-- What became of the deal: the verdict, and under it what is known beyond that. -/
def report (c : Confirmation) : String :=
  Text.lines
    ((c.dealReference ++ " " ++ c.dealStatus.name)
      :: (c.reasonLine ++ c.dealLine ++ c.orderLine ++ c.affectedDeals.map affectedLine))

end Confirmation
end DealDesk
