import DealDesk.Json.Document

/-!
# Writing documents

Two forms: compact, without a blank, and indented, with a line for each item and
member and two blanks for each level.
-/

namespace DealDesk
namespace Json

/-- The hexadecimal digit of a number below sixteen. -/
def hexDigit (n : Nat) : Char :=
  if n < 10 then Char.ofNat (48 + n) else Char.ofNat (87 + n)

/-- One character of a string. -/
def escapeChar (c : Char) : List Char :=
  if c = '"' then ['\\', '"']
  else if c = '\\' then ['\\', '\\']
  else if c.toNat = 8 then ['\\', 'b']
  else if c = '\t' then ['\\', 't']
  else if c = '\n' then ['\\', 'n']
  else if c.toNat = 12 then ['\\', 'f']
  else if c = '\r' then ['\\', 'r']
  else if c.toNat < 32 then
    ['\\', 'u', '0', '0', hexDigit (c.toNat / 16), hexDigit (c.toNat % 16)]
  else [c]

/-- The characters of a string between its quotes. -/
def escape (cs : List Char) : List Char :=
  cs.flatMap escapeChar

/-- A string with its quotes, and what follows it. -/
def writeString (s : String) (tail : List Char) : List Char :=
  '"' :: (escape s.toList ++ '"' :: tail)

/-- The characters of a word, and what follows them. -/
def writeWord (w : String) (tail : List Char) : List Char :=
  w.toList ++ tail

namespace Doc

mutual

/-- The compact form, and what follows it. -/
def compactOnto : Doc → List Char → List Char
  | .null, tail => writeWord "null" tail
  | .bool true, tail => writeWord "true" tail
  | .bool false, tail => writeWord "false" tail
  | .num n, tail => n.text ++ tail
  | .str s, tail => writeString (s.getD "") tail
  | .arr [], tail => '[' :: ']' :: tail
  | .arr (d :: r), tail => '[' :: d.compactOnto (itemsOnto r (']' :: tail))
  | .obj [], tail => '\x7b' :: '\x7d' :: tail
  | .obj (m :: r), tail => '\x7b' :: memberOnto m (membersOnto r ('\x7d' :: tail))
  | .misnamed _, tail => tail
  | .broken, tail => tail
termination_by structural d => d

/-- Items after the first. -/
def itemsOnto : List Doc → List Char → List Char
  | [], tail => tail
  | d :: r, tail => ',' :: d.compactOnto (itemsOnto r tail)
termination_by structural ds => ds

/-- Members after the first. -/
def membersOnto : List (Option String × Doc) → List Char → List Char
  | [], tail => tail
  | m :: r, tail => ',' :: memberOnto m (membersOnto r tail)
termination_by structural ms => ms

/-- A name, a colon and a value. -/
def memberOnto : Option String × Doc → List Char → List Char
  | (k, d), tail => writeString (k.getD "") (':' :: d.compactOnto tail)
termination_by structural m => m

end

/-- A new line with two blanks for each level. -/
def newLine (level : Nat) (tail : List Char) : List Char :=
  '\n' :: (List.replicate (2 * level) ' ' ++ tail)

mutual

/-- The indented form at a level, and what follows it. -/
def indentedOnto : Doc → Nat → List Char → List Char
  | .arr (d :: r), level, tail =>
      '[' :: newLine (level + 1) (d.indentedOnto (level + 1)
        (indentedItemsOnto r level (newLine level (']' :: tail))))
  | .obj (m :: r), level, tail =>
      '\x7b' :: newLine (level + 1) (indentedMemberOnto m (level + 1)
        (indentedMembersOnto r level (newLine level ('\x7d' :: tail))))
  | d, _, tail => d.compactOnto tail
termination_by structural d => d

/-- Items after the first. -/
def indentedItemsOnto : List Doc → Nat → List Char → List Char
  | [], _, tail => tail
  | d :: r, level, tail =>
      ',' :: newLine (level + 1) (d.indentedOnto (level + 1) (indentedItemsOnto r level tail))
termination_by structural ds => ds

/-- Members after the first. -/
def indentedMembersOnto : List (Option String × Doc) → Nat → List Char → List Char
  | [], _, tail => tail
  | m :: r, level, tail =>
      ',' :: newLine (level + 1)
        (indentedMemberOnto m (level + 1) (indentedMembersOnto r level tail))
termination_by structural ms => ms

/-- A name, a colon, a blank and a value. -/
def indentedMemberOnto : Option String × Doc → Nat → List Char → List Char
  | (k, d), level, tail =>
      writeString (k.getD "") (':' :: ' ' :: d.indentedOnto level tail)
termination_by structural m => m

end

/-- The compact form. -/
def compact (d : Doc) : String :=
  String.ofList (d.compactOnto [])

/-- The indented form. -/
def indented (d : Doc) : String :=
  String.ofList (d.indentedOnto 0 [])

end Doc
end Json
end DealDesk
