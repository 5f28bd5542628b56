/-!
# Texts as bytes

The bytes of a text in UTF-8, and the text that bytes stand for.  Bytes that stand
for no text as a whole may still hold characters, with stray bytes between them.

**Results.** The bytes of a text stand for that text and no other one.
-/

namespace DealDesk
namespace Text

/-- The bytes of a text. -/
def bytes (s : String) : List UInt8 :=
  s.toByteArray.data.toList

/-- The text that bytes stand for. -/
def ofBytes? (bs : List UInt8) : Option String :=
  String.fromUTF8? ⟨bs.toArray⟩

/-- The character at the front of bytes, and how many of them it takes. -/
def front? (bs : List UInt8) : Option (Char × Nat) :=
  [1, 2, 3, 4].findSome? fun n =>
    match (ofBytes? (bs.take n)).map String.toList with
    | some [c] => some (c, n)
    | _ => none

/-- The characters of bytes in their order; nothing stands for a byte that belongs to none. -/
def decoded : List UInt8 → List (Option Char)
  | [] => []
  | b :: r =>
      match front? (b :: r) with
      | some (c, n) => some c :: decoded (r.drop (n - 1))
      | none => none :: decoded r
termination_by bs => bs.length
decreasing_by
  all_goals
    simp only [List.length_drop, List.length_cons]
    omega

/-- The first character for private use that is not among some characters. -/
def unused (cs : List Char) : Char :=
  let candidates := (List.range (cs.length + 1)).map fun n => Char.ofNat (0xE000 + n)
  (candidates.find? fun c => !cs.contains c).getD (Char.ofNat 0xE000)

@[simp] theorem ofBytes?_bytes (s : String) :
    ofBytes? (bytes s) = some s := by
  have h := s.isValidUTF8
  simp [ofBytes?, bytes, String.fromUTF8?, String.fromUTF8, h]

theorem bytes_injective {s t : String} (h : bytes s = bytes t) :
    s = t := by
  have hs := ofBytes?_bytes s
  rw [h, ofBytes?_bytes] at hs
  exact (Option.some.inj hs).symm

end Text
end DealDesk
