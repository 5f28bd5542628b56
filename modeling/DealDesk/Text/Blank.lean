/-!
# Blank characters

The white space of the Unicode standard, and the trimming of a text by it.

**Results.** What is trimmed in front starts with no blank, and what is trimmed at the back
ends with none.
-/

namespace DealDesk
namespace Text

/-- The characters with the Unicode property White_Space. -/
def isBlank (c : Char) : Bool :=
  let n := c.toNat
  (9 ≤ n && n ≤ 13) || n == 32 || n == 133 || n == 160 || n == 5760
    || (8192 ≤ n && n ≤ 8202) || n == 8232 || n == 8233 || n == 8239
    || n == 8287 || n == 12288

/-- Blanks at the front are left out. -/
def trimFront (cs : List Char) : List Char :=
  cs.dropWhile isBlank

/-- Blanks at the end are left out. -/
def trimBack (cs : List Char) : List Char :=
  (cs.reverse.dropWhile isBlank).reverse

/-- Blanks at both ends are left out. -/
def trim (cs : List Char) : List Char :=
  trimBack (trimFront cs)

/-- The text without the blanks at its ends. -/
def trimmed (s : String) : String :=
  String.ofList (trim s.toList)

theorem trimFront_head_not_blank
    {c : Char} {cs r : List Char}
    (h : trimFront cs = c :: r) :
    isBlank c = false := by
  have := List.head?_dropWhile_not isBlank cs
  unfold trimFront at h
  rw [h] at this
  simpa using this

theorem dropWhile_framed
    {front rest : List Char} (hfront : ∀ c ∈ front, isBlank c = true)
    (hrest : ∀ c, rest.head? = some c → isBlank c = false) :
    (front ++ rest).dropWhile isBlank = rest := by
  rw [List.dropWhile_append_of_pos hfront]
  cases rest with
  | nil => rfl
  | cons c r => exact List.dropWhile_cons_of_neg (by simp [hrest c rfl])

theorem getLast?_trimBack_not_blank
    {cs : List Char} {c : Char} (h : (trimBack cs).getLast? = some c) :
    isBlank c = false := by
  rw [trimBack, List.getLast?_reverse] at h
  have := List.head?_dropWhile_not isBlank cs.reverse
  rw [h] at this
  simpa using this

end Text
end DealDesk
