import DealDesk.Text.Split
import DealDesk.Text.Utf8

/-!
# URLs as they are sent

A URL is settled before it is sent: blanks at its ends and line breaks are left
out, the path loses its points, and what may not stand in a URL is spelled by the
numbers of its bytes.
-/

namespace DealDesk
namespace Gateway
namespace Url

/-- Controls, and everything outside ASCII. -/
def isControl (c : Char) : Bool :=
  c.toNat < 32 || 126 < c.toNat

/-- Characters that are encoded in a fragment. -/
def inFragment (c : Char) : Bool :=
  isControl c || c = ' ' || c = '"' || c = '<' || c = '>' || c = '\x60'

/-- Characters that are encoded in a path. -/
def inPath (c : Char) : Bool :=
  inFragment c || c = '#' || c = '?' || c = '\x7b' || c = '\x7d'

/-- Characters that are encoded in a query. -/
def inQuery (c : Char) : Bool :=
  isControl c || c = ' ' || c = '"' || c = '#' || c = '<' || c = '>' || c = '\x27'

/-- A digit of the base sixteen, with capital letters. -/
def digit (n : Nat) : Char :=
  if n < 10 then Char.ofNat (48 + n) else Char.ofNat (55 + n)

/-- The spelling of a byte. -/
def spell (b : UInt8) : List Char :=
  ['%', digit (b.toNat / 16), digit (b.toNat % 16)]

/-- A character, spelled by its bytes if it belongs to a class. -/
def encodeChar (chosen : Char → Bool) (c : Char) : List Char :=
  if chosen c then (Text.bytes c.toString).flatMap spell else [c]

/-- A text with the characters of a class spelled by their bytes. -/
def encode (chosen : Char → Bool) (cs : List Char) : List Char :=
  cs.flatMap (encodeChar chosen)

/-- What separates the names of a path. -/
def isSlash (c : Char) : Bool :=
  c = '/' || c = '\\'

/-- A segment of points, where a point may also be spelled by its number. -/
def points (s : List Char) : Nat :=
  match s with
  | ['.'] => 1
  | ['.', '.'] => 2
  | ['%', '2', x] => if x.toLower = 'e' then 1 else 0
  | ['.', '%', '2', x] => if x.toLower = 'e' then 2 else 0
  | ['%', '2', x, '.'] => if x.toLower = 'e' then 2 else 0
  | ['%', '2', x, '%', '2', y] => if x.toLower = 'e' && y.toLower = 'e' then 2 else 0
  | _ => 0

/--
The segments of a path without those of points: one point stands for the folder
itself and two points for the one above it.  A path that ends in points ends in
a slash.
-/
def settle : List (List Char) → List (List Char) → List (List Char)
  | above, [] => above.reverse
  | above, s :: r =>
      if points s = 0 then settle (s :: above) r
      else
        let above := if points s = 2 then above.tail else above
        settle (if r.isEmpty then [] :: above else above) r

/-- A path from its first slash on. -/
def path (cs : List Char) : List Char :=
  (settle [] ((Text.between isSlash cs).map (encode inPath))).flatMap fun s => '/' :: s

/-- A path, a query and a fragment. -/
def resource (cs : List Char) : List Char :=
  let place := cs.takeWhile fun c => c ≠ '?' && c ≠ '#'
  let rest := cs.drop place.length
  let query := rest.takeWhile (· ≠ '#')
  let fragment := rest.drop query.length
  path (place.drop 1)
    ++ (match query with
      | [] => []
      | c :: r => c :: encode inQuery r)
    ++ (match fragment with
      | [] => []
      | c :: r => c :: encode inFragment r)

/-- Blanks and controls at both ends are left out, and tabs and line breaks everywhere. -/
def cleaned (cs : List Char) : List Char :=
  let isOuter := fun c : Char => c.toNat ≤ 32
  (((cs.dropWhile isOuter).reverse.dropWhile isOuter).reverse).filter fun c =>
    c ≠ '\t' && c ≠ '\n' && c ≠ '\r'

/-- A character of the name of a scheme. -/
def isSchemeChar (c : Char) : Bool :=
  c.isAlphanum || c = '+' || c = '-' || c = '.'

/-- The scheme with its colon, if there is one, and what comes after it. -/
def scheme? (cs : List Char) : Option (List Char × List Char) :=
  let name := cs.takeWhile isSchemeChar
  match name.head?, cs.drop name.length with
  | some c, ':' :: r => if c.isAlpha then some (name.map Char.toLower ++ [':'], r) else none
  | _, _ => none

/-- The URL as it is sent; none for a text that names no scheme. -/
def settled? (url : String) : Option String :=
  match scheme? (cleaned url.toList) with
  | none => none
  | some (scheme, r) =>
      let r := r.dropWhile isSlash
      let host := r.takeWhile fun c => !isSlash c && c ≠ '?' && c ≠ '#'
      some (String.ofList (scheme ++ ['/', '/'] ++ host ++ resource (r.drop host.length)))

example : settled? "http://h/a/../b c?d e#f" = some "http://h/b%20c?d%20e#f" := by
  decide +kernel

example : settled? "/gateway" = none := by decide +kernel

end Url
end Gateway
end DealDesk
