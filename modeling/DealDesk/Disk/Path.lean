import DealDesk.Text.Split

/-!
# Paths

A path is a text of names with slashes between them.  It starts at the root if a
slash stands in front, and otherwise at the folder that is worked in.
-/

namespace DealDesk
namespace Disk

/-- A path as it was given. -/
structure Path where
  text : String
deriving DecidableEq

namespace Path

/-- The parts of the text between slashes. -/
def parts (p : Path) : List (List Char) :=
  Text.between (· = '/') p.text.toList

/-- The path starts at the root. -/
def isAbsolute (p : Path) : Bool :=
  p.text.toList.head? = some '/'

/-- The names on the path; an empty one and a single point are none. -/
def names (p : Path) : List String :=
  (p.parts.map String.ofList).filter fun n => n ≠ "" && n ≠ "."

/-- A part that is no name: it is empty or a single point. -/
def isVoid (part : List Char) : Bool :=
  part = [] || part = ['.']

/-- The path can lead to nothing but a folder: it ends in a slash or in a single point. -/
def wantsFolder (p : Path) : Bool :=
  (p.parts.getLast?.map isVoid).getD false

/-- The path ends in a single point, slashes aside: its last name has to be that of a folder. -/
def endsInPoint (p : Path) : Bool :=
  (p.parts.filter fun part => part ≠ []).getLast? = some ['.']

/-- The path ends in points, or is the root: nothing can be put in the place it leads to. -/
def isFixed (p : Path) : Bool :=
  match (p.parts.filter fun part => part ≠ []).getLast? with
  | none => p.isAbsolute
  | some last => last = ['.'] || last = ['.', '.']

/-- The last name, if there is one and it does not lead upwards. -/
def name? (p : Path) : Option String :=
  match p.names.getLast? with
  | none => none
  | some n => if n = ".." then none else some n

/-- Parts without those at the end that are no names. -/
def settled (parts : List (List Char)) : List (List Char) :=
  (parts.reverse.dropWhile isVoid).reverse

/-- The path of parts, the first of which is empty for a path from the root. -/
def ofParts (first : List Char) (rest : List (List Char)) : Path :=
  if first = [] && rest.isEmpty then ⟨"/"⟩
  else ⟨String.ofList (List.intercalate ['/'] (first :: rest))⟩

/-- The path without its last name; empty for a single name, and none for the root. -/
def parent? (p : Path) : Option Path :=
  match p.parts with
  | [] => none
  | first :: rest =>
      if (settled rest).isEmpty then
        if first = [] then none else some ⟨""⟩
      else some (ofParts first (settled (settled rest).dropLast))

/-- A path behind another one. -/
def join (p q : Path) : Path :=
  if q.isAbsolute || p.text = "" then q
  else if p.text.toList.getLast? = some '/' then ⟨p.text ++ q.text⟩
  else ⟨p.text ++ "/" ++ q.text⟩

example : (Path.mk "a//b/./c").names = ["a", "b", "c"] := by decide +kernel

example : (Path.mk "/a/b").parent? = some ⟨"/a"⟩ := by decide +kernel

example : (Path.mk "a").parent? = some ⟨""⟩ := by decide +kernel

example : (Path.mk "/a").parent? = some ⟨"/"⟩ := by decide +kernel

example : (Path.mk "/").parent? = none := by decide +kernel

example : (Path.mk "a/./b/.").parent? = some ⟨"a"⟩ := by decide +kernel

end Path
end Disk
end DealDesk
