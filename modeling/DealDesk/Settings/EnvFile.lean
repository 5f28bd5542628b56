import DealDesk.Disk.Basic
import DealDesk.Settings.Environment
import DealDesk.Text.Alphanumeric
import DealDesk.Text.Blank
import DealDesk.Text.Utf8

/-!
# Files of variables

The file `.env` of the folder that is worked in, or of the nearest folder above
it, supplies variables.  Each of its lines assigns a value to a name; a quote that
stays open carries a line on, and a number sign after a blank starts a comment.  A
value may hold the values of variables that have one already.  Reading stops at
the first line that is no assignment.
-/

namespace DealDesk
namespace Settings
namespace EnvFile

/-- Where in a line a reader stands who looks for its end. -/
inductive Place where
  | free
  | blank
  | escaped
  | single
  | singleEscaped
  | double
  | doubleEscaped
deriving DecidableEq

namespace Place

/-- A character that starts something, wherever it stands outside quotes. -/
def start (c : Char) : Place :=
  if c = '\\' then .escaped
  else if c = '"' then .double
  else if c = '\x27' then .single
  else .free

/-- The place after one more character. -/
def next : Place → Char → Place
  | .free, c => if Text.isBlank c && c ≠ '\n' && c ≠ '\r' then .blank else start c
  | .blank, c => start c
  | .escaped, _ => .free
  | .single, c =>
      if c = '\\' then .singleEscaped else if c = '\x27' then .free else .single
  | .singleEscaped, _ => .single
  | .double, c => if c = '\\' then .doubleEscaped else if c = '"' then .free else .double
  | .doubleEscaped, _ => .double

/-- A line up to its comment, and the place at its end unless it has one. -/
def follow : Place → List Char → List Char × Option Place
  | p, [] => ([], some p)
  | p, c :: r =>
      if p = .blank ∧ c = '#' then ([], none)
      else
        let (kept, final) := follow (p.next c) r
        (c :: kept, final)

end Place

/--
Lines put together as far as quotes carry them on; nothing stands for one that is
no text, or that ends before its quotes do.
-/
def joined : Place → List Char → List (List UInt8) → List (Option (List Char))
  | p, _, [] => if p = .free then [] else [none]
  | p, front, piece :: r =>
      match Text.ofBytes? piece with
      | none => [none]
      | some s =>
          let whole := front ++ s.toList
          if (Text.trimFront whole).head? = some '#' then joined .free [] r
          else
            match p.follow s.toList with
            | (kept, none) => some (front ++ kept) :: joined .free [] r
            | (_, some .free) => some whole :: joined .free [] r
            | (_, some p) => joined p whole r

/-- Where in a value a reader stands. -/
inductive Reading where
  | bare
  | single
  | double
  /-- After a backslash, outside double quotes or inside. -/
  | escaped (inside : Bool)
  /-- In the name of a variable. -/
  | name (inside : Bool) (n : List Char)
  /-- In the name of a variable between braces. -/
  | braced (inside : Bool) (n : List Char)
  /-- After the value: nothing but a comment may follow. -/
  | over

namespace Reading

/-- Outside double quotes, or inside. -/
def back (inside : Bool) : Reading :=
  if inside then .double else .bare

/-- What a character after a backslash stands for. -/
def escape? (c : Char) : Option Char :=
  if c = 'n' then some '\n'
  else if c = '\\' || c = '\x27' || c = '"' || c = '$' || c = ' ' then some c
  else none

end Reading

/-- The value that a text spells, with the values of variables in it. -/
def value? (e : Environment) : Reading → List Char → Option (List Char)
  | .bare, [] => some []
  | .over, [] => some []
  | .escaped false, [] => some []
  | .name false n, [] => some ((e.value? (String.ofList n)).getD "").toList
  | _, [] => none
  | .over, c :: r =>
      if c = ' ' || c = '\t' then value? e .over r
      else if c = '#' then some []
      else none
  | .escaped inside, c :: r =>
      match Reading.escape? c with
      | none => none
      | some c => (value? e (.back inside) r).map (c :: ·)
  | .single, c :: r =>
      if c = '\x27' then value? e .bare r else (value? e .single r).map (c :: ·)
  | .name inside n, c :: r =>
      if Text.isAlphanumeric c then value? e (.name inside (n ++ [c])) r
      else if c = '\x7b' && n.isEmpty then value? e (.braced inside []) r
      else
        let known := ((e.value? (String.ofList n)).getD "").toList
        if c = '$' then (value? e (.name inside []) r).map (known ++ ·)
        else (value? e (.back inside) r).map fun v => known ++ c :: v
  | .braced inside n, c :: r =>
      if c = '\x7d' then
        let known := ((e.value? (String.ofList n)).getD "").toList
        (value? e (.back inside) r).map (known ++ ·)
      else value? e (.braced inside (n ++ [c])) r
  | .double, c :: r =>
      if c = '$' then value? e (.name true []) r
      else if c = '"' then value? e .bare r
      else if c = '\\' then value? e (.escaped true) r
      else (value? e .double r).map (c :: ·)
  | .bare, c :: r =>
      if c = '$' then value? e (.name false []) r
      else if c = '\x27' then value? e .single r
      else if c = '"' then value? e .double r
      else if c = '\\' then value? e (.escaped false) r
      else if c = ' ' || c = '\t' then value? e .over r
      else (value? e .bare r).map (c :: ·)

/-- What a line says. -/
inductive Line where
  | nothing
  | assignment (name value : String)
  | malformed

namespace Line

/-- A character of a name after its first one. -/
def isNameChar (c : Char) : Bool :=
  c.isAlphanum || c = '_' || c = '.'

/-- A name at the front, blanks after it left out, and the rest. -/
def name? (cs : List Char) : Option (List Char × List Char) :=
  match cs.head? with
  | none => none
  | some c =>
      if c.isAlpha || c = '_' then
        let name := cs.takeWhile isNameChar
        some (name, Text.trimFront (cs.drop name.length))
      else none

/-- The name that is assigned to and the text of its value; the word `export` may stand in front. -/
def sides? (cs : List Char) : Option (List Char × List Char) :=
  match name? cs with
  | none => none
  | some (name, '=' :: r) => some (name, r)
  | some (name, r) =>
      if name = "export".toList then
        match name? r with
        | some (name, '=' :: r) => some (name, r)
        | _ => none
      else none

/-- What a line says, given the values that variables have. -/
def ofText (e : Environment) (cs : List Char) : Line :=
  let cs := Text.trim cs
  if cs.isEmpty || cs.head? = some '#' then .nothing
  else
    match sides? cs with
    | none => .malformed
    | some (name, r) =>
        let r := Text.trimFront r
        if r.head? = some '#' then .assignment (String.ofList name) ""
        else
          match value? e .bare r with
          | none => .malformed
          | some v => .assignment (String.ofList name) (String.ofList v)

end Line

/-- The environment with the assignments of lines, up to the first that is malformed. -/
def assign (e : Environment) : List (Option (List Char)) → Environment
  | [] => e
  | none :: _ => e
  | some cs :: r =>
      match Line.ofText e cs with
      | .nothing => assign e r
      | .assignment name value => assign (e.supply name value) r
      | .malformed => e

/-- Three bytes that may stand at the front of a text and are no part of it. -/
def mark : List UInt8 := [0xEF, 0xBB, 0xBF]

/-- The lines of a content. -/
def lines (content : List UInt8) : List (Option (List Char)) :=
  let content := if mark.isPrefixOf content then content.drop mark.length else content
  joined .free [] (Text.endedBy (· = 10) content)

/-- The name of files of variables. -/
def name : String := ".env"

/-- The file in a folder, or in the nearest folder above it; the names come last first. -/
def nearest? (d : Disk) : List String → Option (List UInt8)
  | [] =>
      match d.node? [name] with
      | some (.file content _) => some content
      | _ => none
  | folder :: above =>
      match d.node? ((folder :: above).reverse ++ [name]) with
      | some (.file content _) => some content
      | _ => nearest? d above

/-- The environment with what the nearest file supplies. -/
def supplied (e : Environment) (d : Disk) : Environment :=
  match nearest? d d.here.reverse with
  | none => e
  | some content => assign e (lines content)

end EnvFile
end Settings
end DealDesk
