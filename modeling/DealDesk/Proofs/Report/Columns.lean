import DealDesk.Report.Table

/-!
# Where texts stand in a line

The texts of a line are joined by blanks, so each of them begins behind the texts before it
and a blank after each.  In a line of a table these texts are the fields of its columns.  A
field whose cell fits has the width of its column, and then the columns alone say where the
next field begins: at the same place in every line of the table.

**Results.** `StandsAt.intercalate`: where a text begins among texts that are joined.
`Fit.aligned`: if the cells fit, every column begins where the widths before it say.
`tabulates_table`: so the columns of a table stand below their titles.
-/

namespace DealDesk
namespace Report

/--
The text stands in the line behind so many characters, undivided: in front of it and behind
it the line ends or has a blank.
-/
def StandsAt (n : Nat) (word line : String) : Prop :=
  ∃ before after, line.toList = before ++ word.toList ++ after ∧ before.length = n
    ∧ (∀ c ∈ before.getLast?, c = ' ') ∧ ∀ c ∈ after.head?, c = ' '

/-- The characters in front of one of several parts of these lengths, a blank after each. -/
def offset : List Nat → Nat → Nat
  | n :: ns, i + 1 => n + 1 + offset ns i
  | _, _ => 0

@[simp] theorem offset_zero (ns : List Nat) : offset ns 0 = 0 := by
  cases ns <;> rfl

@[simp] theorem offset_cons_succ (n : Nat) (ns : List Nat) (i : Nat) :
    offset (n :: ns) (i + 1) = n + 1 + offset ns i := rfl

namespace StandsAt

variable {n k : Nat} {word cell line : String}

theorem refl (word : String) : StandsAt 0 word word :=
  ⟨[], [], by simp, rfl, by simp, by simp⟩

/-- What stands in a part of a line stands in the line. -/
theorem trans (h : StandsAt k word cell) (h' : StandsAt n cell line) :
    StandsAt (n + k) word line := by
  obtain ⟨before, after, hcell, hk, hbefore, hafter⟩ := h
  obtain ⟨before', after', hline, hn, hbefore', hafter'⟩ := h'
  refine ⟨before' ++ before, after ++ after', ?_, ?_, ?_, ?_⟩
  · rw [hline, hcell]
    simp only [List.append_assoc]
  · rw [List.length_append, hn, hk]
  · intro c hc
    rw [List.getLast?_append, Option.mem_def, Option.or_eq_some_iff] at hc
    rcases hc with hc | ⟨-, hc⟩
    · exact hbefore c hc
    · exact hbefore' c hc
  · intro c hc
    rw [List.head?_append, Option.mem_def, Option.or_eq_some_iff] at hc
    rcases hc with hc | ⟨-, hc⟩
    · exact hafter c hc
    · exact hafter' c hc

/-- The first text of a line ends at a blank. -/
theorem front (word rest : String) :
    StandsAt 0 word (word ++ " " ++ rest) :=
  ⟨[], ' ' :: rest.toList, by simp, rfl, by simp, by simp⟩

/-- The rest of a line begins behind its first text and a blank. -/
theorem behind (word rest : String) :
    StandsAt (word.length + 1) rest (word ++ " " ++ rest) :=
  ⟨word.toList ++ [' '], [], by simp, by rw [List.length_append, String.length_toList]; rfl,
    by simp, by simp⟩

/-- Of texts that are joined by blanks each stands behind those before it. -/
theorem intercalate
    {words : List String} {i : Nat} (h : words[i]? = some word) :
    StandsAt (offset (words.map String.length) i) word (String.intercalate " " words) := by
  induction words generalizing i with
  | nil => cases h
  | cons w rest ih =>
      cases i with
      | zero =>
          cases h
          cases rest with
          | nil =>
              rw [String.intercalate_singleton]
              exact refl word
          | cons second rest =>
              rw [String.intercalate_cons_cons]
              exact front word _
      | succ i =>
          rw [List.getElem?_cons_succ] at h
          have hrest : rest ≠ [] := List.ne_nil_of_mem (List.mem_of_getElem? h)
          rw [String.intercalate_cons_of_ne_nil hrest, List.map_cons, offset_cons_succ]
          exact (ih h).trans (behind w _)

end StandsAt

/-! ### Fields -/

namespace Column

/-- The blanks in front of a cell in its column. -/
def inset (c : Column) (cell : String) : Nat :=
  match c.alignment with
  | .right => c.width - cell.length
  | .left | .last => 0

/-- In its column a cell stands at the left end or at the right end. -/
theorem standsAt_place (c : Column) (cell : String) :
    StandsAt (c.inset cell) cell (c.place cell) := by
  have hblank {n : Nat} {b : Char} (h : b ∈ List.replicate n ' ') : b = ' ' :=
    List.eq_of_mem_replicate h
  unfold inset place
  cases c.alignment with
  | left =>
      refine ⟨[], List.replicate (c.width - cell.length) ' ', ?_, rfl, by simp, fun b hb => ?_⟩
      · simp [Text.padRight]
      · exact hblank (List.mem_of_mem_head? hb)
  | right =>
      refine ⟨List.replicate (c.width - cell.length) ' ', [], ?_, List.length_replicate,
        fun b hb => ?_, by simp⟩
      · simp [Text.padLeft]
      · exact hblank (List.mem_of_mem_getLast? hb)
  | last => exact StandsAt.refl cell

end Column

/-- The characters in front of a column: the columns before it, and a blank after each. -/
def start (columns : List Column) (i : Nat) : Nat :=
  offset (columns.map Column.width) i

/-- The field of a cell stands in its line behind the fields before it. -/
theorem standsAt_line
    {columns : List Column} {cells : List String} {i : Nat} {c : Column} {cell : String}
    (hc : columns[i]? = some c) (hcell : cells[i]? = some cell) :
    StandsAt (offset ((List.zipWith Column.place columns cells).map String.length) i)
      (c.place cell) (line columns cells) :=
  StandsAt.intercalate (List.getElem?_zipWith_eq_some.2 ⟨c, cell, hc, hcell, rfl⟩)

/-- Each cell but the last one is padded to the width of its column, and not longer than that. -/
structure Fit (columns : List Column) (cells : List String) : Prop where
  length : cells.length = columns.length
  padded : ∀ c ∈ columns.dropLast, c.alignment ≠ .last
  le : ∀ p ∈ (columns.zip cells).dropLast, p.2.length ≤ p.1.width

/--
The line has a cell for every column.  Its field begins where the column does, and the cell
stands at an end of the field.
-/
structure Aligned (columns : List Column) (cells : List String) (line : String) : Prop where
  length : cells.length = columns.length
  field : ∀ i c cell, columns[i]? = some c → cells[i]? = some cell →
    StandsAt (start columns i) (c.place cell) line
  cell : ∀ i c cell, columns[i]? = some c → cells[i]? = some cell →
    StandsAt (start columns i + c.inset cell) cell line

namespace Fit

variable {columns : List Column} {cells : List String}

/-- The fields before a column are as wide as their columns. -/
theorem offset_fields
    (h : Fit columns cells) {i : Nat} (hi : i < columns.length) :
    offset ((List.zipWith Column.place columns cells).map String.length) i
      = start columns i := by
  obtain ⟨hlength, hpadded, hle⟩ := h
  induction columns generalizing cells i with
  | nil => cases hi
  | cons c columns ih =>
      cases i with
      | zero => rw [start, offset_zero, offset_zero]
      | succ i =>
          obtain ⟨cell, cells, rfl⟩ := List.exists_cons_of_length_eq_add_one hlength
          have hi : i < columns.length := Nat.lt_of_succ_lt_succ hi
          have hlength : cells.length = columns.length := Nat.succ.inj hlength
          have hcolumns : columns ≠ [] := List.ne_nil_of_length_pos (Nat.zero_lt_of_lt hi)
          have hzip : columns.zip cells ≠ [] := by
            rw [Ne, ← List.length_eq_zero_iff, List.length_zip, hlength]
            omega
          rw [List.dropLast_cons_of_ne_nil hcolumns, List.forall_mem_cons] at hpadded
          rw [List.zip_cons_cons, List.dropLast_cons_of_ne_nil hzip, List.forall_mem_cons] at hle
          rw [List.zipWith_cons_cons, List.map_cons, offset_cons_succ,
            ih hi hlength hpadded.2 hle.2, Column.length_place hpadded.1 hle.1]
          rfl

/-- If the cells fit, every column begins where it does in any other such line. -/
theorem aligned (h : Fit columns cells) :
    Aligned columns cells (line columns cells) := by
  have hfield : ∀ i c cell, columns[i]? = some c → cells[i]? = some cell →
      StandsAt (start columns i) (c.place cell) (line columns cells) := by
    intro i c cell hc hcell
    obtain ⟨hi, -⟩ := List.getElem?_eq_some_iff.1 hc
    rw [← h.offset_fields hi]
    exact standsAt_line hc hcell
  exact
    { length := h.length
      field := hfield
      cell := fun i c cell hc hcell => (c.standsAt_place cell).trans (hfield i c cell hc hcell) }

end Fit

/-! ### Lines -/

/-- Joined lines are the first one and, after a line feed each, the others. -/
theorem toList_lines (first : String) (rest : List String) :
    (Text.lines (first :: rest)).toList
      = first.toList ++ rest.flatMap fun l => '\n' :: l.toList := by
  unfold Text.lines
  induction rest generalizing first with
  | nil => simp
  | cons second rest ih =>
      rw [String.intercalate_cons_cons, String.toList_append, ih second, List.flatMap_cons]
      simp

/-- Texts that are joined end before the blank that would follow the last of them. -/
theorem length_intercalate
    {words : List String} (h : words ≠ []) :
    (String.intercalate " " words).length + 1 = offset (words.map String.length) words.length := by
  induction words with
  | nil => exact absurd rfl h
  | cons w rest ih =>
      cases rest with
      | nil => simp
      | cons second rest =>
          rw [String.intercalate_cons_cons, List.map_cons, List.length_cons, offset_cons_succ,
            ← ih (List.cons_ne_nil second rest), String.length_append, String.length_append]
          have hblank : " ".length = 1 := by decide
          omega

/--
The table has a line of titles and after it a line for each row, in their order.  In all its
lines the columns begin at the same places.
-/
structure Tabulates {α : Type} (columns : List Column) (cells : α → List String)
    (rows : List α) (table : String) : Prop where
  lines : table.toList = (line columns (columns.map Column.title)).toList
    ++ rows.flatMap fun r => '\n' :: (line columns (cells r)).toList
  titles : Aligned columns (columns.map Column.title) (line columns (columns.map Column.title))
  rows : ∀ r ∈ rows, Aligned columns (cells r) (line columns (cells r))

/-- A table whose cells fit stands below its titles. -/
theorem tabulates_table
    {α : Type} {columns : List Column} {cells : α → List String} {rows : List α}
    (htitles : Fit columns (columns.map Column.title))
    (hrows : ∀ r ∈ rows, Fit columns (cells r)) :
    Tabulates columns cells rows (table columns (rows.map cells)) where
  lines := by
    rw [table, toList_lines, List.map_map, List.flatMap_map]
    rfl
  titles := htitles.aligned
  rows r hr := (hrows r hr).aligned

end Report
end DealDesk
