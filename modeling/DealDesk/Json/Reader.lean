import DealDesk.Json.Document
import DealDesk.Text.Utf8

/-!
# Reading documents

The document of a text.  Reading never fails: where the text stops being a
document, the document is `broken`, and nothing after that place is read.

Bytes are read in the same way, even if they are no text as a whole.  A stray byte
in a string leaves a string that denotes no text; anywhere else it breaks the
document.  While such bytes are read, a character that does not occur among them
stands for the stray ones.

Reading a container calls for at most two steps for each character, which gives
the bound on the recursion.

**Results.** The bytes of a text are read as that text.
-/

namespace DealDesk
namespace Json

/-- Blanks between the parts of a document. -/
def isSpace (c : Char) : Bool :=
  c == ' ' || c == '\n' || c == '\t' || c == '\r'

/-- The text from its first character that is no blank. -/
def skipSpace (cs : List Char) : List Char :=
  cs.dropWhile isSpace

/-- The value of a hexadecimal digit. -/
def hexValue? (c : Char) : Option Nat :=
  if '0' ≤ c ∧ c ≤ '9' then some (c.toNat - 48)
  else if 'a' ≤ c ∧ c ≤ 'f' then some (c.toNat - 87)
  else if 'A' ≤ c ∧ c ≤ 'F' then some (c.toNat - 55)
  else none

/-- What stands inside a string: a character, half of a pair that spells one, or a stray byte. -/
inductive Piece where
  | char (c : Char)
  | upper (n : Nat)
  | lower (n : Nat)
  | stray

/-- The piece of a 16-bit code. -/
def Piece.ofCode (n : Nat) : Piece :=
  if 0xD800 ≤ n ∧ n < 0xDC00 then .upper (n - 0xD800)
  else if 0xDC00 ≤ n ∧ n < 0xE000 then .lower (n - 0xDC00)
  else .char (Char.ofNat n)

/-- The character of an escape that is a single letter or mark. -/
def escaped? (c : Char) : Option Char :=
  if c = '"' then some '"'
  else if c = '\\' then some '\\'
  else if c = '/' then some '/'
  else if c = 'b' then some (Char.ofNat 8)
  else if c = 'f' then some (Char.ofNat 12)
  else if c = 'n' then some '\n'
  else if c = 'r' then some '\r'
  else if c = 't' then some '\t'
  else none

/-- Four hexadecimal digits. -/
def code? (a b c d : Char) : Option Nat := do
  let a ← hexValue? a
  let b ← hexValue? b
  let c ← hexValue? c
  let d ← hexValue? d
  some (((a * 16 + b) * 16 + c) * 16 + d)

/-- The pieces up to the closing quote, and what follows it. -/
def readPieces (isStray : Char → Bool) : List Char → Option (List Piece × List Char)
  | [] => none
  | '"' :: r => some ([], r)
  | '\\' :: 'u' :: a :: b :: c :: d :: r =>
      match code? a b c d with
      | none => none
      | some n => (readPieces isStray r).map fun p => (Piece.ofCode n :: p.1, p.2)
  | '\\' :: c :: r =>
      match escaped? c with
      | none => none
      | some c' => (readPieces isStray r).map fun p => (.char c' :: p.1, p.2)
  | c :: r =>
      if c.toNat < 32 ∨ c = '\\' then none
      else
        let piece := if isStray c then Piece.stray else .char c
        (readPieces isStray r).map fun p => (piece :: p.1, p.2)

/-- The characters that pieces spell; both halves of a pair have to be there. -/
def assemble : List Piece → Option (List Char)
  | [] => some []
  | .char c :: r => (assemble r).map (c :: ·)
  | .upper a :: .lower b :: r =>
      (assemble r).map (Char.ofNat (0x10000 + a * 1024 + b) :: ·)
  | _ => none

/-- A string after its opening quote, and what follows it. -/
def readString (isStray : Char → Bool) (cs : List Char) :
    Option (Option String × List Char) :=
  (readPieces isStray cs).map fun p => ((assemble p.1).map String.ofList, p.2)

/-- The rest of a text after a word, if the word comes next. -/
def afterWord : List Char → List Char → Option (List Char)
  | [], cs => some cs
  | _ :: _, [] => none
  | w :: ws, c :: cs => if w = c then afterWord ws cs else none

/-- A word that stands for a document, and what follows it. -/
def readWord (w : String) (d : Doc) (cs : List Char) : Doc × List Char :=
  match afterWord w.toList cs with
  | some r => (d, r)
  | none => (.broken, [])

/-- A document that has no parts, and what follows it. -/
def readScalar (isStray : Char → Bool) (cs : List Char) : Doc × List Char :=
  match cs with
  | [] => (.broken, [])
  | c :: r =>
      if c = '"' then
        match readString isStray r with
        | some (s, r') => (.str s, r')
        | none => (.broken, [])
      else if c = 'n' then readWord "null" .null cs
      else if c = 't' then readWord "true" (.bool true) cs
      else if c = 'f' then readWord "false" (.bool false) cs
      else
        match Numeral.read cs with
        | some (n, r') => (.num n, r')
        | none => (.broken, [])

mutual

/-- The document at the front of a text, and what follows it. -/
def readDoc (isStray : Char → Bool) : Nat → List Char → Doc × List Char
  | 0, _ => (.broken, [])
  | fuel + 1, cs =>
      match skipSpace cs with
      | '[' :: r =>
          match skipSpace r with
          | ']' :: r' => (.arr [], r')
          | r' =>
              let p := readItems isStray fuel r'
              (.arr p.1, p.2)
      | '\x7b' :: r =>
          match skipSpace r with
          | '\x7d' :: r' => (.obj [], r')
          | '"' :: r' =>
              let p := readMembers isStray fuel ('"' :: r')
              (.obj p.1, p.2)
          | r' => (.misnamed (readDoc isStray fuel r').1, [])
      | r => readScalar isStray r

/-- An item and those after it, up to the closing bracket. -/
def readItems (isStray : Char → Bool) : Nat → List Char → List Doc × List Char
  | 0, _ => ([.broken], [])
  | fuel + 1, cs =>
      let p := readDoc isStray fuel cs
      match skipSpace p.2 with
      | ',' :: r =>
          let q := readItems isStray fuel r
          (p.1 :: q.1, q.2)
      | ']' :: r => ([p.1], r)
      | _ => ([p.1, .broken], [])

/-- A member and those after it, up to the closing brace. -/
def readMembers (isStray : Char → Bool) :
    Nat → List Char → List (Option String × Doc) × List Char
  | 0, _ => ([(none, .broken)], [])
  | fuel + 1, cs =>
      match skipSpace cs with
      | '"' :: r =>
          match readString isStray r with
          | none => ([(none, .broken)], [])
          | some (key, r) =>
              match skipSpace r with
              | ':' :: r =>
                  let p := readDoc isStray fuel r
                  match skipSpace p.2 with
                  | ',' :: r =>
                      let q := readMembers isStray fuel r
                      ((key, p.1) :: q.1, q.2)
                  | '\x7d' :: r => ([(key, p.1)], r)
                  | _ => ([(key, p.1), (none, .broken)], [])
              | _ => ([(key, .broken)], [])
      | _ => ([(none, .broken)], [])

end

/-- A text as a document, and whether more than blanks follows it. -/
structure Reading where
  doc : Doc
  trailing : Bool

/-- The document of characters, some of which may be stray. -/
def readChars (isStray : Char → Bool) (cs : List Char) : Reading :=
  let p := readDoc isStray (2 * cs.length + 2) cs
  ⟨p.1, !(skipSpace p.2).isEmpty⟩

/-- The document of a text. -/
def readText (s : String) : Reading :=
  readChars (fun _ => false) s.toList

/-- The document of bytes. -/
def readBytes (bs : List UInt8) : Reading :=
  match Text.ofBytes? bs with
  | some s => readText s
  | none =>
      let decoded := Text.decoded bs
      let stray := Text.unused (decoded.filterMap id)
      readChars (· = stray) (decoded.map fun c => c.getD stray)

theorem readBytes_bytes (s : String) :
    readBytes (Text.bytes s) = readText s := by
  simp [readBytes]

end Json
end DealDesk
