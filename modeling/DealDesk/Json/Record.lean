import DealDesk.Json.Codec

/-!
# Records in documents

A record is a row of fields.  In a document it is an object with a member for
each field, in any order, or an array with the fields in their order.

Members are read in the order of the text: an unknown one only has to be sound, a
known one must not be repeated and has to fit its field.  At the end of the object
the first field without a member is missing, unless it has a value for that case.
-/

namespace DealDesk
namespace Json

/-- One field of a record. -/
structure Field (α : Type) where
  key : String
  codec : Codec α
  /-- The value of a field without a member. -/
  ifAbsent : Option α
  /-- The value of a field that an array ends before. -/
  ifShort : Option α
  /-- The field is not written for this value. -/
  isSilent : α → Bool

namespace Field

/-- A field that has to be there. -/
def required {α : Type} (key : String) (c : Codec α) : Field α :=
  ⟨key, c, none, none, fun _ => false⟩

/-- A field with a value for its absence. -/
def withDefault {α : Type} (key : String) (c : Codec α) (v : α) : Field α :=
  ⟨key, c, some v, some v, fun _ => false⟩

/-- A field that may be absent or nothing, and is written in both cases. -/
def nullable {α : Type} (key : String) (c : Codec α) : Field (Option α) :=
  ⟨key, Codec.optional c, some none, none, fun _ => false⟩

/-- A field that may be absent or nothing, and is then not written. -/
def elided {α : Type} (key : String) (c : Codec α) : Field (Option α) :=
  ⟨key, Codec.optional c, some none, some none, Option.isNone⟩

end Field

/--
A row of fields.  Its values are a nested pair; so are its slots, the places for
the values while an object is read.
-/
inductive Fields : Type → Type → Type 1 where
  | nil : Fields Unit Unit
  | cons {α β σ : Type} (f : Field α) (rest : Fields β σ) : Fields (α × β) (Option α × σ)

namespace Fields

/-- The number of fields. -/
def size : {τ σ : Type} → Fields τ σ → Nat
  | _, _, .nil => 0
  | _, _, .cons _ rest => rest.size + 1

/-- The keys in order. -/
def keys : {τ σ : Type} → Fields τ σ → List String
  | _, _, .nil => []
  | _, _, .cons f rest => f.key :: rest.keys

/-- No place is filled. -/
def empty : {τ σ : Type} → Fields τ σ → σ
  | _, _, .nil => ()
  | _, _, .cons _ rest => (none, rest.empty)

/-- A member fills its place; `none` if no field has its key. -/
def put : {τ σ : Type} → Fields τ σ → σ → String → Doc → Except Fault (Option σ)
  | _, _, .nil, _, _, _ => .ok none
  | _, _, .cons f rest, (slot, slots), key, d =>
      if key = f.key then
        match slot with
        | some _ => .error (.repeatedMember key)
        | none =>
            match f.codec.read d with
            | .error e => .error e
            | .ok v => .ok (some (some v, slots))
      else
        match rest.put slots key d with
        | .error e => .error e
        | .ok none => .ok none
        | .ok (some slots') => .ok (some (slot, slots'))

/-- All members in their order; an unknown one only has to be sound. -/
def putAll {τ σ : Type} (fs : Fields τ σ) :
    σ → List (Option String × Doc) → Except Fault σ
  | slots, [] => .ok slots
  | _, (none, _) :: _ => .error .malformed
  | slots, (some key, d) :: r =>
      match fs.put slots key d with
      | .error e => .error e
      | .ok (some slots') => fs.putAll slots' r
      | .ok none => if d.isSound then fs.putAll slots r else .error .malformed

/-- The values, once every place is filled or has a value for its absence. -/
def close : {τ σ : Type} → Fields τ σ → σ → Except Fault τ
  | _, _, .nil, _ => .ok ()
  | _, _, .cons f rest, (slot, slots) =>
      match slot <|> f.ifAbsent with
      | none => .error (.missingMember f.key)
      | some v => (rest.close slots).map fun w => (v, w)

/-- The values of an array, which `wanted` describes in messages. -/
def ofItems (wanted : String) :
    {τ σ : Type} → Fields τ σ → Nat → List Doc → Except Fault τ
  | _, _, .nil, n, items =>
      if items.isEmpty then .ok () else .error (.tooLong (n + items.length) n)
  | _, _, .cons f rest, n, [] =>
      match f.ifShort with
      | none => .error (.tooShort n wanted)
      | some v => (ofItems wanted rest (n + 1) []).map fun w => (v, w)
  | _, _, .cons f rest, n, d :: items =>
      match f.codec.read d with
      | .error e => .error e
      | .ok v => (ofItems wanted rest (n + 1) items).map fun w => (v, w)

/-- The members of the values that are not silent. -/
def members : {τ σ : Type} → Fields τ σ → τ → List (Option String × Doc)
  | _, _, .nil, _ => []
  | _, _, .cons f rest, (v, w) =>
      if f.isSilent v then rest.members w
      else Doc.member f.key (f.codec.write v) :: rest.members w

/-- The values from an object or an array. -/
def read {τ σ : Type} (kind : String) (fs : Fields τ σ) : Doc → Except Fault τ
  | .obj ms =>
      match fs.putAll fs.empty ms with
      | .error e => .error e
      | .ok slots => fs.close slots
  | .misnamed _ => .error .malformed
  | .arr items => ofItems (kind ++ " with " ++ elements fs.size) fs 0 items
  | d => .error (d.mismatch kind)

/-- The codec of a row of fields. -/
def codec {τ σ : Type} (kind : String) (fs : Fields τ σ) : Codec τ where
  read := fs.read kind
  write v := .obj (fs.members v)

end Fields
end Json
end DealDesk
