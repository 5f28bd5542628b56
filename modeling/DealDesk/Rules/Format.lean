import DealDesk.Text.Split

/-!
# Forms of single fields

The forms that currency codes, instruments, expiries, references and quotes have.
Each is a row of characters from a small part of ASCII, with a length of its own in
bytes; an expiry is a few such rows with hyphens between them.
-/

namespace DealDesk
namespace Format

/-- A letter from A to Z, or from a to z. -/
def isLetter (c : Char) : Bool :=
  ('A' ≤ c && c ≤ 'Z') || ('a' ≤ c && c ≤ 'z')

/-- A letter from A to Z. -/
def isCapital (c : Char) : Bool :=
  'A' ≤ c && c ≤ 'Z'

/-- A digit from 0 to 9. -/
def isDigit (c : Char) : Bool :=
  '0' ≤ c && c ≤ '9'

/-- A letter or a digit. -/
def isAlphanumeric (c : Char) : Bool :=
  isLetter c || isDigit c

/-- Between `low` and `high` bytes in UTF-8, and each character of the kind. -/
def isRow (low high : Nat) (kind : Char → Bool) (s : String) : Bool :=
  low ≤ s.utf8ByteSize && s.utf8ByteSize ≤ high && s.toList.all kind

/-- Three capital letters. -/
def isCurrencyCode (s : String) : Bool :=
  isRow 3 3 isCapital s

/-- Six to thirty letters, digits, points and low lines. -/
def isEpic (s : String) : Bool :=
  isRow 6 30 (fun c => isAlphanumeric c || c == '.' || c == '_') s

/-- One to thirty letters, digits, points, low lines and hyphens. -/
def isDealReference (s : String) : Bool :=
  isRow 1 30 (fun c => isAlphanumeric c || c == '.' || c == '_' || c == '-') s

/-- One letter or digit at least, and nothing else. -/
def isQuoteId (s : String) : Bool :=
  !s.toList.isEmpty && s.toList.all isAlphanumeric

/-- The short names of the months. -/
def months : List String :=
  ["JAN", "FEB", "MAR", "APR", "MAY", "JUN", "JUL", "AUG", "SEP", "OCT", "NOV", "DEC"]

/-- Two digits. -/
def isPair (s : String) : Bool :=
  isRow 2 2 isDigit s

/-- The parts of a text between its hyphens. -/
def betweenHyphens (s : String) : List String :=
  (Text.between (fun c => c == '-') s.toList).map String.ofList

/-- `DFB` for a daily bet, a hyphen for no expiry, a month and a year, or a full date. -/
def isExpiry (s : String) : Bool :=
  s == "DFB" || s == "-" ||
    match betweenHyphens s with
    | [month, year] => months.contains month && isPair year
    | [day, month, year] => isPair day && months.contains month && isPair year
    | _ => false

end Format
end DealDesk
