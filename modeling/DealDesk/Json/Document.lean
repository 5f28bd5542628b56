import DealDesk.Number.Numeral

/-!
# Documents

A document as its text spells it.  Objects keep the order and the repetitions of
their members, and numbers keep their digits.  A text that stops making sense
still has a document: everything up to that place, and `broken` at it.  A reader
that walks a document in the order of its text therefore meets the faults of the
syntax and the faults of the content in the order in which they stand there.

**Results.** A document that is legible at some depth is sound.
-/

namespace DealDesk
namespace Json

/-- A document, or as much of one as a text holds. -/
inductive Doc where
  | null
  | bool (b : Bool)
  | num (n : Numeral)
  /-- A string; `none` for one whose escapes do not pair up to characters. -/
  | str (s : Option String)
  | arr (items : List Doc)
  /-- Members in order; a name that denotes no text is `none`. -/
  | obj (members : List (Option String × Doc))
  /-- An object in which something other than a string stands where the first name must. -/
  | misnamed (key : Doc)
  /-- The place from which on the text is not a document. -/
  | broken
deriving Inhabited

namespace Doc

mutual

/-- The text of the document has no fault of syntax. -/
def isSound : Doc → Bool
  | .arr items => areSound items
  | .obj members => membersSound members
  | .misnamed _ => false
  | .broken => false
  | _ => true
termination_by structural d => d

/-- Every item is sound. -/
def areSound : List Doc → Bool
  | [] => true
  | d :: r => d.isSound && areSound r
termination_by structural ds => ds

/-- Every member is sound. -/
def membersSound : List (Option String × Doc) → Bool
  | [] => true
  | m :: r => memberSound m && membersSound r
termination_by structural ms => ms

/-- The value of the member is sound. -/
def memberSound : Option String × Doc → Bool
  | (_, d) => d.isSound
termination_by structural m => m

end

mutual

/--
The document is sound, its strings denote texts, its numbers satisfy `ok`, and
its containers nest at most `depth` deep.
-/
def isLegible (ok : Numeral → Bool) : Doc → Nat → Bool
  | .num n, _ => ok n
  | .str s, _ => s.isSome
  | .arr _, 0 => false
  | .arr items, depth + 1 => areLegible ok items depth
  | .obj _, 0 => false
  | .obj members, depth + 1 => membersLegible ok members depth
  | .misnamed _, _ => false
  | .broken, _ => false
  | _, _ => true
termination_by structural d => d

/-- Every item is legible. -/
def areLegible (ok : Numeral → Bool) : List Doc → Nat → Bool
  | [], _ => true
  | d :: r, depth => d.isLegible ok depth && areLegible ok r depth
termination_by structural ds => ds

/-- Every member is legible. -/
def membersLegible (ok : Numeral → Bool) : List (Option String × Doc) → Nat → Bool
  | [], _ => true
  | m :: r, depth => memberLegible ok m depth && membersLegible ok r depth
termination_by structural ms => ms

/-- The name of the member denotes a text and its value is legible. -/
def memberLegible (ok : Numeral → Bool) : Option String × Doc → Nat → Bool
  | (k, d), depth => k.isSome && d.isLegible ok depth
termination_by structural m => m

end

/-- A member with a name. -/
def member (key : String) (value : Doc) : Option String × Doc :=
  (some key, value)

mutual

theorem isSound_of_isLegible
    {ok : Numeral → Bool} {d : Doc} {depth : Nat} (h : d.isLegible ok depth = true) :
    d.isSound = true := by
  match d, depth with
  | .null, _ => rfl
  | .bool _, _ => rfl
  | .num _, _ => rfl
  | .str _, _ => rfl
  | .arr _, 0 => simp [isLegible] at h
  | .arr items, depth + 1 =>
      rw [isLegible] at h
      exact areSound_of_areLegible h
  | .obj _, 0 => simp [isLegible] at h
  | .obj members, depth + 1 =>
      rw [isLegible] at h
      exact membersSound_of_membersLegible h
  | .misnamed _, _ => simp [isLegible] at h
  | .broken, _ => simp [isLegible] at h

theorem areSound_of_areLegible
    {ok : Numeral → Bool} {ds : List Doc} {depth : Nat} (h : areLegible ok ds depth = true) :
    areSound ds = true := by
  match ds with
  | [] => rfl
  | d :: r =>
      rw [areLegible, Bool.and_eq_true] at h
      rw [areSound, isSound_of_isLegible h.1, areSound_of_areLegible h.2, Bool.and_self]

theorem membersSound_of_membersLegible
    {ok : Numeral → Bool} {ms : List (Option String × Doc)} {depth : Nat}
    (h : membersLegible ok ms depth = true) :
    membersSound ms = true := by
  match ms with
  | [] => rfl
  | m :: r =>
      rw [membersLegible, Bool.and_eq_true] at h
      rw [membersSound, memberSound_of_memberLegible h.1, membersSound_of_membersLegible h.2,
        Bool.and_self]

theorem memberSound_of_memberLegible
    {ok : Numeral → Bool} {m : Option String × Doc} {depth : Nat}
    (h : memberLegible ok m depth = true) :
    memberSound m = true := by
  match m with
  | (k, d) =>
      rw [memberLegible, Bool.and_eq_true] at h
      exact isSound_of_isLegible h.2

end

end Doc
end Json
end DealDesk
