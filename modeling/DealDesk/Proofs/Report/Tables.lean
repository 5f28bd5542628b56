import DealDesk.Proofs.Report.Columns
import DealDesk.Report.Holdings

/-!
# The tables of deals

The names of markets are shortened to their column, and the words for the side and for the
kind of an order are short.  So whether a row fits its columns is decided by the identifier
of the deal and by the numbers.

**Results.** `Text.length_shorten`, `Text.exists_front_of_shorten`: what is left of a long
name.  `Portfolio.length_row_iff`: a row of positions has the length of the titles exactly if
it fits.  `tables_aligned`: rows that fit stand below their titles, in both tables.
-/

namespace DealDesk

open Report

namespace Text

/-- A text beyond the limit is brought to the limit, and not below it. -/
theorem length_shorten
    {s : String} {limit : Nat} (h : limit < s.length) :
    (shorten s limit).length = limit := by
  have hlong : ¬ s.length ≤ limit := Nat.not_le.2 h
  rw [← String.length_toList] at h
  simp only [shorten, hlong, if_false]
  split
  · rw [String.length_ofList, List.length_take]
    omega
  · have hpoints : "...".length = 3 := by decide
    rw [String.length_append, String.length_ofList, List.length_take, hpoints]
    omega

/-- Where there is room for the points, they stand for all but the front of the text. -/
theorem exists_front_of_shorten
    {s : String} {limit : Nat} (h : limit < s.length) (hroom : 3 < limit) :
    ∃ front : String, front.toList <+: s.toList ∧ front.length = limit - 3
      ∧ shorten s limit = front ++ "..." := by
  have hlong : ¬ s.length ≤ limit := Nat.not_le.2 h
  have hpoints : ¬ limit ≤ 3 := Nat.not_le.2 hroom
  rw [← String.length_toList] at h
  refine ⟨String.ofList (s.toList.take (limit - 3)), ?_, ?_, ?_⟩
  · rw [String.toList_ofList]
    exact List.take_prefix _ _
  · rw [String.length_ofList, List.length_take]
    omega
  · simp only [shorten, hlong, hpoints, if_false]

end Text

theorem Side.length_name_le (s : Side) : s.name.length ≤ 4 := by
  cases s <;> decide

theorem Trigger.length_name_le (t : Trigger) : t.name.length ≤ 6 := by
  cases t <;> decide

/-- The identifier, the size and the levels of a position are not longer than their columns. -/
structure Holding.Fits (h : Holding) : Prop where
  dealId : h.position.dealId.length ≤ 18
  size : h.position.size.text.length ≤ 8
  level : h.position.level.text.length ≤ 10
  stopLevel : (levelText h.position.stopLevel).length ≤ 10
  limitLevel : (levelText h.position.limitLevel).length ≤ 10

/-- The identifier, the size and the level of an order are not longer than their columns. -/
structure PendingOrder.Fits (o : PendingOrder) : Prop where
  dealId : o.terms.dealId.length ≤ 18
  size : o.terms.orderSize.text.length ≤ 8
  level : o.terms.orderLevel.text.length ≤ 10

namespace Portfolio

theorem fit_titles : Fit columns (columns.map Column.title) :=
  ⟨rfl, by decide, by decide⟩

theorem fit_cells {h : Holding} (hfits : h.Fits) : Fit columns (cells h) where
  length := rfl
  padded := by decide
  le := by
    have hname := Text.length_shorten_le h.market.instrumentName nameWidth
    have hside := h.position.direction.length_name_le
    simp only [columns, cells, List.zip_cons_cons, List.zip_nil_right, List.dropLast_cons_cons,
      List.dropLast_singleton, List.forall_mem_cons]
    exact ⟨hfits.dealId, hname, hside, hfits.size, hfits.level, hfits.stopLevel,
      List.forall_mem_nil _⟩

/-- The columns of a row are as wide as their titles are, or as the cells that do not fit. -/
theorem length_row (h : Holding) :
    (line columns (cells h)).length
      = max 18 h.position.dealId.length + max 8 h.position.size.text.length
        + max 10 h.position.level.text.length + max 10 (levelText h.position.stopLevel).length
        + max 10 (levelText h.position.limitLevel).length + 38 := by
  have hname := Text.length_shorten_le h.market.instrumentName nameWidth
  have hside := h.position.direction.length_name_le
  have hlength : (line columns (cells h)).length + 1 = _ :=
    length_intercalate (List.cons_ne_nil _ _)
  rw [← Nat.add_right_cancel_iff, hlength]
  simp only [columns, cells, nameWidth, List.zipWith_cons_cons, List.zipWith_nil_left,
    Column.place, List.map_cons, List.map_nil, List.length_cons, List.length_nil,
    offset_cons_succ, offset_zero, Text.length_padRight, Text.length_padLeft] at hname ⊢
  omega

/-- A row has as many characters as the line of titles exactly if it fits. -/
theorem length_row_iff (h : Holding) :
    (line columns (cells h)).length = 94 ↔ h.Fits := by
  rw [length_row]
  constructor
  · intro hlength
    constructor <;> omega
  · rintro ⟨hdealId, hsize, hlevel, hstop, hlimit⟩
    omega

end Portfolio

namespace OrderBook

theorem fit_titles : Fit columns (columns.map Column.title) :=
  ⟨rfl, by decide, by decide⟩

theorem fit_cells {o : PendingOrder} (hfits : o.Fits) : Fit columns (cells o) where
  length := rfl
  padded := by decide
  le := by
    have hname := Text.length_shorten_le o.market.instrumentName nameWidth
    have hside := o.terms.direction.length_name_le
    have htrigger := o.terms.orderType.length_name_le
    simp only [columns, cells, List.zip_cons_cons, List.zip_nil_right, List.dropLast_cons_cons,
      List.dropLast_singleton, List.forall_mem_cons]
    exact ⟨hfits.dealId, hname, hside, htrigger, hfits.size, hfits.level, List.forall_mem_nil _⟩

end OrderBook

/--
The tables of positions and of orders have a line of titles and after it a line for each deal,
in their order.  Where the cells fit, their columns begin below the titles, whatever the names
of the markets, and a row of positions is as long as the titles are.  A name is kept up to the
limit; beyond that it is brought to the limit, and three points stand for its end where there
is room for more than them.
-/
theorem tables_aligned
    {p : Portfolio} {b : OrderBook}
    (hp : ∀ h ∈ p.positions, h.Fits) (hb : ∀ o ∈ b.orders, o.Fits) :
    Tabulates Portfolio.columns Portfolio.cells p.positions p.table
      ∧ (line Portfolio.columns (Portfolio.columns.map Column.title)).length = 94
      ∧ (∀ h ∈ p.positions, (line Portfolio.columns (Portfolio.cells h)).length = 94)
      ∧ Tabulates OrderBook.columns OrderBook.cells b.orders b.table
      ∧ ∀ (s : String) (n : Nat),
        (s.length ≤ n → Text.shorten s n = s)
          ∧ (n < s.length → (Text.shorten s n).length = n)
          ∧ (n < s.length → 3 < n → ∃ front : String, front.toList <+: s.toList
            ∧ front.length = n - 3 ∧ Text.shorten s n = front ++ "...") := by
  refine ⟨?_, by decide, ?_, ?_, ?_⟩
  · exact tabulates_table Portfolio.fit_titles fun h hh => Portfolio.fit_cells (hp h hh)
  · exact fun h hh => (Portfolio.length_row_iff h).2 (hp h hh)
  · exact tabulates_table OrderBook.fit_titles fun o ho => OrderBook.fit_cells (hb o ho)
  · exact fun s n => ⟨Text.shorten_eq_self, Text.length_shorten, Text.exists_front_of_shorten⟩

/-! ### One deal in each table -/

def Decimal.specimen : Decimal := ⟨false, 7500500, 3, by decide, by decide⟩

/-- A position without a stop, in a market with a name longer than its column. -/
def Holding.specimen : Holding where
  position :=
    { contractSize := .specimen, controlledRisk := false, createdDate := "", createdDateUtc := ""
      currency := "GBP", dealId := "DIAAAAPH7CKXGBB", dealReference := "", direction := .buy
      level := .specimen, size := .specimen, limitLevel := some .specimen
      limitedRiskPremium := none, stopLevel := none, trailingStep := none
      trailingStopDistance := none }
  market :=
    { instrumentName := "FTSE 100 Cash (£1), daily funded", expiry := "", epic := ""
      instrumentType := .indices, lotSize := .specimen, high := .specimen, low := .specimen
      percentageChange := .specimen, netChange := .specimen, bid := .specimen, offer := .specimen
      updateTime := "", updateTimeUtc := "", delayTime := 0, streamingPricesAvailable := true
      marketStatus := .tradeable, scalingFactor := 1 }

/-- An order that waits until a day. -/
def PendingOrder.specimen : PendingOrder where
  terms :=
    { dealId := "DIAAAAPJP4A6DAS", direction := .sell, epic := "", orderSize := .specimen
      orderLevel := .specimen, timeInForce := .goodTillDate
      goodTillDate := some "2024/03/14 23:59", goodTillDateIso := none, createdDate := ""
      createdDateUtc := "", guaranteedStop := false, orderType := .limit, stopDistance := none
      limitDistance := none, currencyCode := "GBP", dma := false, limitedRiskPremium := none }
  market :=
    { instrumentName := "GBP/USD", exchangeId := "", expiry := "", marketStatus := .tradeable
      epic := "", instrumentType := .currencies, lotSize := .specimen, high := .specimen
      low := .specimen, percentageChange := .specimen, netChange := .specimen, bid := .specimen
      offer := .specimen, updateTime := "", updateTimeUtc := "", delayTime := 0
      streamingPricesAvailable := true, scalingFactor := 1 }

theorem Holding.fits_specimen : Holding.specimen.Fits := by
  constructor <;> decide

theorem PendingOrder.fits_specimen : PendingOrder.specimen.Fits := by
  constructor <;> decide

/-- The level of the position ends with its column, and the day of the order begins with its. -/
theorem tables_aligned_specimen :
    Holding.specimen.Fits ∧ PendingOrder.specimen.Fits
      ∧ (line Portfolio.columns (Portfolio.cells Holding.specimen)).length = 94
      ∧ StandsAt 66 "7500.5" (line Portfolio.columns (Portfolio.cells Holding.specimen))
      ∧ StandsAt 80 "GOOD_TILL_DATE 2024/03/14 23:59"
        (line OrderBook.columns (OrderBook.cells PendingOrder.specimen)) := by
  have hp : ∀ h ∈ (Portfolio.mk [Holding.specimen]).positions, h.Fits :=
    List.forall_mem_singleton.2 Holding.fits_specimen
  have hb : ∀ o ∈ (OrderBook.mk [PendingOrder.specimen]).orders, o.Fits :=
    List.forall_mem_singleton.2 PendingOrder.fits_specimen
  obtain ⟨hpositions, -, hlength, horders, -⟩ := tables_aligned hp hb
  refine ⟨Holding.fits_specimen, PendingOrder.fits_specimen, hlength _ List.mem_cons_self, ?_, ?_⟩
  · exact (hpositions.rows _ List.mem_cons_self).cell 4 _ "7500.5" rfl (by decide)
  · exact (horders.rows _ List.mem_cons_self).cell 6 _ "GOOD_TILL_DATE 2024/03/14 23:59" rfl
      (by decide)

end DealDesk
