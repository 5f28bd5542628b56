import DealDesk.Proofs.Json.Rereading
import DealDesk.Proofs.Number.Plain
import DealDesk.Proofs.Report.Columns
import DealDesk.Proofs.Session.Record
import DealDesk.Report.Holdings

/-!
# Levels as they are shown

A level is shown in plain notation without trailing zeros.  Neither the notation nor the
place of the text in a report takes a digit from it: the column of a table is wider than the
text or gives way to it, and the words of a line are joined by blanks.

**Results.** `level_exact`: the text of a level is plain notation of its value, the level is
read back from it as from a string in a document, levels of one value have one text, and the
texts stand undivided in the lines of the reports.
-/

namespace DealDesk

open Json

namespace Report

/-- A value is read from a string in a document as from the string. -/
theorem ofText_string_iff
    {α : Type} (c : Codec α) (s : String) (v : α) :
    c.ofText (Codec.string.text s) = .ok v ↔ c.read (.str (some s)) = .ok v := by
  rw [Codec.ofText, Codec.text,
    readText_compact Numeral.wellFormed_of_isProper (Codec.legible_string _ s 0),
    Codec.ofReading_eq_ok_iff]
  rfl

/-- The text of a level is read back as the level without its trailing zeros. -/
theorem read_levelText (d : Decimal) :
    Codec.decimal.read (.str (some (levelText (some d)))) = .ok d.normalized := by
  simp only [Codec.decimal, levelText, d.ofText?_text]

/-- Levels have one text if and only if they have one value. -/
theorem levelText_eq_iff (d e : Decimal) :
    levelText (some d) = levelText (some e) ↔ d.toRat = e.toRat := by
  rw [← Decimal.normalized_eq_iff]
  constructor
  · intro h
    have hread := d.ofText?_text
    rw [show d.text = e.text from h, e.ofText?_text] at hread
    exact (Option.some.inj hread).symm
  · intro h
    rw [levelText, levelText, Decimal.text, Decimal.text, h]

/-! ### Words of a line -/

/-- The text stands in the line undivided: from its front or a blank up to a blank or its end. -/
def Stands (word line : String) : Prop :=
  ∃ before after, line.toList = before ++ word.toList ++ after
    ∧ (∀ c ∈ before.getLast?, c = ' ') ∧ ∀ c ∈ after.head?, c = ' '

theorem StandsAt.stands
    {n : Nat} {word line : String} (h : StandsAt n word line) :
    Stands word line := by
  obtain ⟨before, after, hline, -, hbefore, hafter⟩ := h
  exact ⟨before, after, hline, hbefore, hafter⟩

/-- A line that ends in a blank can go on with a word. -/
theorem getLast?_blank
    {front last : String} (h : last.toList.getLast? = some ' ') :
    ∀ c ∈ (front ++ last).toList.getLast?, c = ' ' := by
  intro c hc
  rw [String.toList_append, List.getLast?_append, h] at hc
  exact (Option.some.inj hc).symm

/-- A line shows each of its cells undivided. -/
theorem stands_line
    {columns : List Column} {cells : List String} (hlength : cells.length ≤ columns.length)
    {cell : String} (h : cell ∈ cells) :
    Stands cell (line columns cells) := by
  obtain ⟨i, hcell⟩ := List.mem_iff_getElem?.1 h
  obtain ⟨hi, -⟩ := List.getElem?_eq_some_iff.1 hcell
  have hc := List.getElem?_eq_getElem (Nat.lt_of_lt_of_le hi hlength)
  exact ((Column.standsAt_place _ cell).trans (standsAt_line hc hcell)).stands

/-- The line shows each of the levels, and for one that is absent the hyphen. -/
def Shows (line : String) (levels : List (Option Decimal)) : Prop :=
  ∀ level ∈ levels, Stands (levelText level) line

end Report

open Report

/-- The size and the levels of a position. -/
def Holding.levels (h : Holding) : List (Option Decimal) :=
  [some h.position.size, some h.position.level, h.position.stopLevel, h.position.limitLevel]

/-- The size and the level of an order. -/
def PendingOrder.levels (o : PendingOrder) : List (Option Decimal) :=
  [some o.terms.orderSize, some o.terms.orderLevel]

theorem Portfolio.shows_levels (h : Holding) :
    Shows (line columns (cells h)) h.levels := by
  intro level hlevel
  refine stands_line (Nat.le_refl _) ?_
  simp only [Holding.levels, List.mem_cons, List.not_mem_nil, or_false] at hlevel
  rcases hlevel with rfl | rfl | rfl | rfl <;> simp [cells, levelText]

theorem OrderBook.shows_levels (o : PendingOrder) :
    Shows (line columns (cells o)) o.levels := by
  intro level hlevel
  refine stands_line (Nat.le_refl _) ?_
  simp only [PendingOrder.levels, List.mem_cons, List.not_mem_nil, or_false] at hlevel
  rcases hlevel with rfl | rfl <;> simp [cells, levelText]

theorem Confirmation.shows_levels
    {c : Confirmation} {l : String} (h : l ∈ c.orderLine) :
    Shows l [c.size, c.level] := by
  rw [orderLine] at h
  split at h
  · rename_i epic side _ _
    rw [List.mem_singleton] at h
    subst h
    intro level hlevel
    simp only [List.mem_cons, List.not_mem_nil, or_false] at hlevel
    rcases hlevel with rfl | rfl
    · refine ⟨("  order:   " ++ side.name ++ " ").toList,
        (" " ++ epic ++ " @ " ++ levelText c.level).toList, ?_, getLast?_blank (by simp),
        by simp⟩
      simp only [String.toList_append, List.append_assoc]
    · refine ⟨("  order:   " ++ side.name ++ " " ++ levelText c.size ++ " " ++ epic
        ++ " @ ").toList, [], ?_, getLast?_blank (by simp), by simp⟩
      simp only [String.toList_append, List.append_assoc, List.append_nil]
  · cases h

namespace Report

/--
The text of a level is plain notation of its value, and the level is read from it when it
stands as a string in a document, alone or where a level may be absent.  So the texts of two
levels are equal if and only if the levels are, and no report cuts such a text.
-/
theorem level_exact :
    (∀ d : Decimal, ∃ n : Numeral, n.IsPlain ∧ (levelText (some d)).toList = n.text
        ∧ n.plainRat = d.toRat)
      ∧ (∀ d : Decimal, ∃ e : Decimal, e.toRat = d.toRat
        ∧ Codec.decimal.ofText (Codec.string.text (levelText (some d))) = .ok e
        ∧ (Codec.optional Codec.decimal).ofText (Codec.string.text (levelText (some d)))
          = .ok (some e))
      ∧ (∀ d e : Decimal, levelText (some d) = levelText (some e) ↔ d.toRat = e.toRat)
      ∧ (∀ h : Holding, Shows (line Portfolio.columns (Portfolio.cells h)) h.levels)
      ∧ (∀ o : PendingOrder, Shows (line OrderBook.columns (OrderBook.cells o)) o.levels)
      ∧ ∀ c : Confirmation, ∀ l ∈ c.orderLine, Shows l [c.size, c.level] := by
  refine ⟨fun d => ?_, fun d => ?_, levelText_eq_iff, Portfolio.shows_levels,
    OrderBook.shows_levels, fun c l => Confirmation.shows_levels⟩
  · refine ⟨d.normalized.spell, d.isPlain_spell_normalized, String.toList_ofList, ?_⟩
    rw [Decimal.plainRat_spell, Decimal.toRat_normalized]
  · refine ⟨d.normalized, d.toRat_normalized, (ofText_string_iff ..).2 (read_levelText d),
      (ofText_string_iff ..).2 ?_⟩
    have hne : Doc.str (some (levelText (some d))) ≠ .null := Doc.noConfusion
    rw [Codec.optional_read_of_ne_null hne, read_levelText]
    rfl

/-- The level 7500.50 is shown as 7500.5 is, and read back with that value. -/
theorem level_exact_specimen :
    let long : Decimal := ⟨false, 750050, 2, by decide, by decide⟩
    let short : Decimal := ⟨false, 75005, 1, by decide, by decide⟩
    levelText (some short) = "7500.5" ∧ levelText (some long) = levelText (some short)
      ∧ ∃ e : Decimal, e.toRat = short.toRat
        ∧ Codec.decimal.ofText (Codec.string.text (levelText (some long))) = .ok e := by
  intro long short
  have hvalue : long.toRat = short.toRat := by
    norm_num [Decimal.toRat, Decimal.absRat, long, short]
  obtain ⟨-, hread, htext, -⟩ := level_exact
  obtain ⟨e, he, hok, -⟩ := hread long
  exact ⟨by decide, (htext long short).2 hvalue, e, he.trans hvalue, hok⟩

end Report
end DealDesk
