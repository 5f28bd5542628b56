import DealDesk.Text.Layout

/-!
# Headers

Names and values that go with a request or a reply.  The text of a value is
checked before it is sent; secret values are marked, so that they are not shown.
Names that differ only in case are one name.

**Results.** A header of a new name goes behind the others.
-/

namespace DealDesk
namespace Gateway

/-- A name and a value. -/
structure Header where
  name : String
  value : String
  /-- The value is a secret. -/
  isSensitive : Bool
deriving DecidableEq

namespace Header

/-- A value may hold any character but controls; a tab is allowed. -/
def isValue (s : String) : Bool :=
  s.toList.all fun c => c = '\t' || (32 ≤ c.toNat && c.toNat ≠ 127)

/-- Values that can be read back as text hold only ASCII, controls other than a tab apart. -/
def isReadable (s : String) : Bool :=
  s.toList.all fun c => c = '\t' || (32 ≤ c.toNat && c.toNat < 127)

/-- A header with a secret value. -/
def secret (name value : String) : Header := ⟨name, value, true⟩

/-- A header that everyone may see. -/
def plain (name value : String) : Header := ⟨name, value, false⟩

/-- The key of the application. -/
def apiKeyName : String := "x-ig-api-key"

/-- The version of the endpoint. -/
def versionName : String := "version"

/-- The token of the client in a session. -/
def clientTokenName : String := "cst"

/-- The token of the account in a session. -/
def securityTokenName : String := "x-security-token"

/-- The method that is meant where another one has to carry a body. -/
def methodName : String := "_method"

/-- Documents in UTF-8. -/
def documentKind : String := "application/json; charset=utf-8"

/-- A header in the place of those of the same name. -/
def set (headers : List Header) (h : Header) : List Header :=
  headers.filter (fun x => x.name.toLower ≠ h.name.toLower) ++ [h]

/-- The headers of names and values; the last of those of a name that are values counts. -/
def gather (entries : List (String × String)) : List Header :=
  (entries.filter fun e => isValue e.2).foldl (fun hs e => set hs (plain e.1 e.2)) []

/-- The value under a name, in any case, if it can be read as text. -/
def find? (headers : List Header) (name : String) : Option String :=
  match headers.find? fun h => h.name.toLower = name with
  | none => none
  | some h => if isReadable h.value then some h.value else none

/-- A header of a new name goes behind the others. -/
theorem set_of_not_mem
    {name : String} {h : Header} (hname : h.name.toLower = name) {headers : List Header}
    (hnew : name ∉ headers.map fun x => x.name.toLower) :
    set headers h = headers ++ [h] := by
  rw [set, List.filter_eq_self.2]
  intro x hx
  have hx' : x.name.toLower ≠ name := fun heq => hnew (List.mem_map.2 ⟨x, hx, heq⟩)
  simpa [hname] using hx'

end Header
end Gateway
end DealDesk
