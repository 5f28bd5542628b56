import DealDesk.Json.Printer
import DealDesk.Json.Reader

/-!
# Strings in documents

A string is written with escapes for quotes, backslashes and control characters.
The reader takes the pieces of the text up to the closing quote, and each escape
is the piece of the character it was written for.

**Results.** `readString_escape`: every string is read back from its escaped form,
whatever follows its closing quote.
-/

namespace DealDesk
namespace Json

theorem hexValue?_hexDigit :
    ∀ n < 16, hexValue? (hexDigit n) = some n := by
  decide

theorem readPieces_char
    {c : Char} (hq : c ≠ '"') (hb : c ≠ '\\') (hc : 32 ≤ c.toNat) (r : List Char) :
    readPieces (fun _ => false) (c :: r)
      = (readPieces (fun _ => false) r).map fun p => (.char c :: p.1, p.2) := by
  rw [readPieces.eq_def]
  split
  · contradiction
  · rename_i h
    exact absurd (List.cons.inj h).1 hq
  · rename_i h
    exact absurd (List.cons.inj h).1 hb
  · rename_i h
    exact absurd (List.cons.inj h).1 hb
  · rename_i h
    obtain ⟨rfl, rfl⟩ := List.cons.inj h
    have hplain : ¬ (c.toNat < 32 ∨ c = '\\') := by
      rintro (hlow | hmark)
      · omega
      · exact hb hmark
    rw [if_neg hplain]
    rfl

/-- An escape by a letter or a mark. -/
theorem readPieces_escape
    {c d : Char} (hu : c ≠ 'u') (he : escaped? c = some d) (r : List Char) :
    readPieces (fun _ => false) ('\\' :: c :: r)
      = (readPieces (fun _ => false) r).map fun p => (.char d :: p.1, p.2) := by
  rw [readPieces, he]
  intro _ _ _ _ _ h
  exact absurd h hu

/-- An escape by the code of a control character. -/
theorem readPieces_code
    {n : Nat} (hn : n < 32) (r : List Char) :
    readPieces (fun _ => false)
        ('\\' :: 'u' :: '0' :: '0' :: hexDigit (n / 16) :: hexDigit (n % 16) :: r)
      = (readPieces (fun _ => false) r).map fun p => (.char (Char.ofNat n) :: p.1, p.2) := by
  have hhigh := hexValue?_hexDigit (n / 16) (by omega)
  have hlow := hexValue?_hexDigit (n % 16) (by omega)
  have hzero : hexValue? '0' = some 0 := by decide
  have hcode : code? '0' '0' (hexDigit (n / 16)) (hexDigit (n % 16)) = some n := by
    simp only [code?, hzero, hhigh, hlow, Option.bind_eq_bind, Option.bind_some,
      Option.some.injEq]
    omega
  have hpiece : Piece.ofCode n = .char (Char.ofNat n) := by
    simp only [Piece.ofCode]
    rw [if_neg (by omega), if_neg (by omega)]
  rw [readPieces, hcode]
  simp only [hpiece]

/-- What is written for a character is the piece of that character. -/
theorem readPieces_escapeChar (c : Char) (r : List Char) :
    readPieces (fun _ => false) (escapeChar c ++ r)
      = (readPieces (fun _ => false) r).map fun p => (.char c :: p.1, p.2) := by
  -- The cases are those of `escapeChar`, in its order.
  by_cases hquote : c = '"'
  · subst hquote
    exact readPieces_escape (by decide) (by decide) r
  by_cases hback : c = '\\'
  · subst hback
    exact readPieces_escape (by decide) (by decide) r
  by_cases hbell : c = Char.ofNat 8
  · subst hbell
    exact readPieces_escape (by decide) (by decide) r
  by_cases htab : c = '\t'
  · subst htab
    exact readPieces_escape (by decide) (by decide) r
  by_cases hline : c = '\n'
  · subst hline
    exact readPieces_escape (by decide) (by decide) r
  by_cases hpage : c = Char.ofNat 12
  · subst hpage
    exact readPieces_escape (by decide) (by decide) r
  by_cases hreturn : c = '\r'
  · subst hreturn
    exact readPieces_escape (by decide) (by decide) r
  have height : c.toNat ≠ 8 := fun h => hbell (by rw [← h, Char.ofNat_toNat])
  have htwelve : c.toNat ≠ 12 := fun h => hpage (by rw [← h, Char.ofNat_toNat])
  rw [escapeChar, if_neg hquote, if_neg hback, if_neg height, if_neg htab, if_neg hline,
    if_neg htwelve, if_neg hreturn]
  by_cases hcontrol : c.toNat < 32
  · have hcode := readPieces_code hcontrol r
    rw [Char.ofNat_toNat] at hcode
    rw [if_pos hcontrol]
    exact hcode
  · rw [if_neg hcontrol]
    exact readPieces_char hquote hback (by omega) r

theorem readPieces_escape_append (cs tail : List Char) :
    readPieces (fun _ => false) (escape cs ++ '"' :: tail)
      = some (cs.map Piece.char, tail) := by
  induction cs with
  | nil => simp [escape, readPieces]
  | cons c cs ih =>
      rw [escape] at ih ⊢
      rw [List.flatMap_cons, List.append_assoc, readPieces_escapeChar, ih]
      rfl

theorem assemble_map_char (cs : List Char) :
    assemble (cs.map Piece.char) = some cs := by
  induction cs with
  | nil => rfl
  | cons c cs ih => simp [assemble, ih]

theorem readString_escape (s : String) (tail : List Char) :
    readString (fun _ => false) (escape s.toList ++ '"' :: tail) = some (some s, tail) := by
  simp [readString, readPieces_escape_append, assemble_map_char]

end Json
end DealDesk
