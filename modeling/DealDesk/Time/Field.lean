import DealDesk.Number.Digit
import DealDesk.Text.Blank

/-!
# Fields of written dates and times

A written date is a row of numbers with marks between them.  Blanks may stand
in front of a number, and a number takes as many digits as its field has room
for, leading zeros or not.
-/

namespace DealDesk
namespace Field

/-- At most `limit` digits from the front, and what follows them. -/
def digits : Nat → List Char → List Digit × List Char
  | 0, cs => ([], cs)
  | _ + 1, [] => ([], [])
  | n + 1, c :: r =>
      match Digit.ofChar? c with
      | some d => (d :: (digits n r).1, (digits n r).2)
      | none => ([], c :: r)

/-- A number of one digit at least and `limit` digits at most. -/
def number (limit : Nat) (cs : List Char) : Option (Nat × List Char) :=
  match digits limit cs with
  | ([], _) => none
  | (d :: ds, r) => some (Digit.value (d :: ds), r)

/-- A number after blanks, within bounds. -/
def bounded (low high limit : Nat) (cs : List Char) : Option (Nat × List Char) := do
  let (n, r) ← number limit (Text.trimFront cs)
  if low ≤ n ∧ n ≤ high then some (n, r) else none

/-- A year after blanks: four digits at most, or a sign and any number of digits. -/
def year (cs : List Char) : Option (Int × List Char) :=
  match Text.trimFront cs with
  | '-' :: r => (number r.length r).map fun p => (-(p.1 : Int), p.2)
  | '+' :: r => (number r.length r).map fun p => ((p.1 : Int), p.2)
  | r => (number 4 r).map fun p => ((p.1 : Int), p.2)

/-- A mark that has to stand next. -/
def mark (c : Char) : List Char → Option (List Char)
  | [] => none
  | d :: r => if d = c then some r else none

def month (cs : List Char) : Option (Nat × List Char) := bounded 1 12 2 cs

def day (cs : List Char) : Option (Nat × List Char) := bounded 1 31 2 cs

def hour (cs : List Char) : Option (Nat × List Char) := bounded 0 23 2 cs

def minute (cs : List Char) : Option (Nat × List Char) := bounded 0 59 2 cs

/-- The second 60 is a leap second. -/
def second (cs : List Char) : Option (Nat × List Char) := bounded 0 60 2 cs

/-- Zeros in front of a number up to a width. -/
def padded (width n : Nat) : List Char :=
  List.replicate (width - (natText n).length) '0' ++ natText n

end Field
end DealDesk
