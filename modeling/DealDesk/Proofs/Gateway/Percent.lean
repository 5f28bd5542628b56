import DealDesk.Gateway.Url
import DealDesk.Json.Reader

/-!
# Bytes spelled in a URL

Characters of a URL stand for bytes: a percent sign with two digits behind it for the byte
that it spells, and any other character for its own bytes.  The encoding of a path spells the
bytes of what may not stand there, and leaves percent signs as they are.

**Results.** `Url.decoded_encode`: encoding changes nothing in what characters stand for.
`Url.decoded_eq_iff`: characters stand for their own bytes exactly if they spell none.
`Url.decoded_of_points`: what a path takes for points stands for points.
-/

namespace DealDesk

namespace Text

/-- The bytes of characters. -/
def charBytes (cs : List Char) : List UInt8 :=
  cs.flatMap String.utf8EncodeChar

theorem charBytes_cons (c : Char) (cs : List Char) :
    charBytes (c :: cs) = String.utf8EncodeChar c ++ charBytes cs :=
  List.flatMap_cons

theorem bytes_ofList (cs : List Char) :
    bytes (String.ofList cs) = charBytes cs := by
  simp [bytes, charBytes, String.toByteArray_ofList, List.utf8Encode]

theorem bytes_toString (c : Char) :
    bytes c.toString = String.utf8EncodeChar c := by
  have h := bytes_ofList [c]
  simpa [charBytes] using h

theorem length_bytes_le_of_sublist
    {cs ds : List Char} (h : cs.Sublist ds) :
    (charBytes cs).length ≤ (charBytes ds).length := by
  induction h with
  | slnil => exact Nat.le_refl 0
  | cons d h ih =>
      rw [charBytes_cons, List.length_append]
      omega
  | cons_cons c h ih =>
      rw [charBytes_cons, charBytes_cons, List.length_append, List.length_append]
      omega

theorem charBytes_injective
    {cs ds : List Char} (h : charBytes cs = charBytes ds) :
    cs = ds := by
  rw [← bytes_ofList, ← bytes_ofList] at h
  exact String.ofList_injective (bytes_injective h)

/-- A part of a text that has as many bytes is the whole text. -/
theorem eq_of_sublist_of_length_bytes
    {cs ds : List Char} (h : cs.Sublist ds)
    (hlength : (charBytes ds).length ≤ (charBytes cs).length) :
    cs = ds := by
  induction h with
  | slnil => rfl
  | @cons cs ds d h ih =>
      -- The character that is left out has a byte at least.
      have hd : 0 < (String.utf8EncodeChar d).length := by
        rw [String.length_utf8EncodeChar]
        exact d.utf8Size_pos
      have hle := length_bytes_le_of_sublist h
      rw [charBytes_cons, List.length_append] at hlength
      omega
  | @cons_cons cs ds c h ih =>
      rw [charBytes_cons, charBytes_cons, List.length_append, List.length_append] at hlength
      rw [ih (by omega)]

end Text

namespace Gateway
namespace Url

open Json

/-- The characters begin with the spelling of a byte. -/
def Spelt (cs : List Char) : Prop :=
  ∃ x y r, cs = '%' :: x :: y :: r ∧ (hexValue? x).isSome = true ∧ (hexValue? y).isSome = true

/-- The bytes that characters stand for, each by itself or in its spelling. -/
def decoded : List Char → List UInt8
  | [] => []
  | '%' :: x :: y :: r =>
      match hexValue? x, hexValue? y with
      | some high, some low => UInt8.ofNat (16 * high + low) :: decoded r
      | _, _ => Text.bytes "%" ++ decoded (x :: y :: r)
  | c :: r => Text.bytes c.toString ++ decoded r

theorem decoded_spelling
    {x y : Char} {high low : Nat} (hx : hexValue? x = some high) (hy : hexValue? y = some low)
    (r : List Char) :
    decoded ('%' :: x :: y :: r) = UInt8.ofNat (16 * high + low) :: decoded r := by
  simp only [decoded, hx, hy]

theorem decoded_cons
    {c : Char} {r : List Char} (h : ¬ Spelt (c :: r)) :
    decoded (c :: r) = Text.bytes c.toString ++ decoded r := by
  rw [decoded.eq_def]
  split
  · rename_i heq
    cases heq
  · rename_i x y r' heq
    cases heq
    cases hx : hexValue? x with
    | none => rfl
    | some high =>
        cases hy : hexValue? y with
        | none => rfl
        | some low =>
            exact absurd ⟨x, y, r', rfl, by rw [hx]; rfl, by rw [hy]; rfl⟩ h
  · rename_i heq
    cases heq
    rfl

@[elab_as_elim]
theorem decoded_induction
    {P : List Char → Prop} (nil : P [])
    (spelling : ∀ x y r high low, hexValue? x = some high → hexValue? y = some low → P r →
      P ('%' :: x :: y :: r))
    (cons : ∀ c r, ¬ Spelt (c :: r) → P r → P (c :: r)) (cs : List Char) :
    P cs := by
  induction cs using decoded.induct with
  | case1 => exact nil
  | case2 x y r high low hx hy ih => exact spelling x y r high low hy hx ih
  | case3 x y r hnone ih =>
      refine cons '%' (x :: y :: r) ?_ ih
      rintro ⟨x', y', r', heq, hx, hy⟩
      cases heq
      obtain ⟨high, hx⟩ := Option.isSome_iff_exists.1 hx
      obtain ⟨low, hy⟩ := Option.isSome_iff_exists.1 hy
      exact hnone high low hx hy
  | case4 c r hother ih =>
      refine cons c r ?_ ih
      rintro ⟨x, y, r', heq, -, -⟩
      cases heq
      exact hother x y r' rfl rfl

theorem hexValue?_digit :
    ∀ n < 16, hexValue? (digit n) = some n := by
  decide

/-- Bytes that were spelled are read back. -/
theorem decoded_flatMap_spell (bs : List UInt8) (r : List Char) :
    decoded (bs.flatMap spell ++ r) = bs ++ decoded r := by
  induction bs with
  | nil => rfl
  | cons b bs ih =>
      have hb := b.toNat_lt
      have hjoin : UInt8.ofNat (16 * (b.toNat / 16) + b.toNat % 16) = b := by
        rw [Nat.div_add_mod, UInt8.ofNat_toNat]
      rw [List.flatMap_cons, List.append_assoc, spell, List.cons_append, List.cons_append,
        List.cons_append, List.nil_append,
        decoded_spelling (hexValue?_digit _ (by omega)) (hexValue?_digit _ (by omega)), ih, hjoin]
      rfl

theorem inPath_of_hexValue?
    {c : Char} (h : (hexValue? c).isSome = true) :
    inPath c = false := by
  have hbounds : 48 ≤ c.toNat ∧ c.toNat ≤ 102 := by
    rw [hexValue?] at h
    split at h
    · rename_i hc
      exact ⟨hc.1, Nat.le_trans hc.2 (by decide)⟩
    · split at h
      · rename_i hc
        exact ⟨Nat.le_trans (by decide) hc.1, hc.2⟩
      · split at h
        · rename_i hc
          exact ⟨Nat.le_trans (by decide) hc.1, Nat.le_trans hc.2 (by decide)⟩
        · cases h
  rw [← Bool.not_eq_true]
  intro hpath
  simp only [inPath, inFragment, isControl, Bool.or_eq_true, decide_eq_true_eq] at hpath
  rcases hpath with ((((((((((hlow | hhigh) | rfl) | rfl) | rfl) | rfl) | rfl) | rfl) | rfl) | rfl) | rfl)
  · omega
  · omega
  all_goals cases h

/-- Encoded text begins with a percent sign or with its own first character. -/
theorem exists_of_encode
    {cs r : List Char} {x : Char} (h : encode inPath cs = x :: r) (hx : x ≠ '%') :
    ∃ ds, cs = x :: ds ∧ encode inPath ds = r := by
  cases cs with
  | nil => cases h
  | cons c ds =>
      rw [encode, List.flatMap_cons, encodeChar] at h
      cases hc : inPath c with
      | false =>
          simp only [hc, Bool.false_eq_true, if_false, List.singleton_append] at h
          obtain ⟨rfl, hds⟩ := List.cons.inj h
          exact ⟨ds, rfl, hds⟩
      | true =>
          obtain ⟨b, bs, hbytes⟩ : ∃ b bs, Text.bytes c.toString = b :: bs := by
            refine List.exists_cons_of_ne_nil ?_
            rw [Text.bytes_toString]
            exact String.utf8EncodeChar_ne_nil
          simp only [hc, if_true, hbytes, List.flatMap_cons, spell] at h
          exact absurd (List.cons.inj h).1.symm hx

/-- What is encoded in a path stands for the same bytes as before. -/
theorem decoded_encode (cs : List Char) :
    decoded (encode inPath cs) = decoded cs := by
  induction cs using decoded_induction with
  | nil => rfl
  | spelling x y r high low hx hy ih =>
      have hencode : encode inPath ('%' :: x :: y :: r) = '%' :: x :: y :: encode inPath r := by
        have hmark : inPath '%' = false := by decide
        simp [encode, encodeChar, hmark, inPath_of_hexValue? (Option.isSome_of_eq_some hx),
          inPath_of_hexValue? (Option.isSome_of_eq_some hy)]
      rw [hencode, decoded_spelling hx hy, decoded_spelling hx hy, ih]
  | cons c r h ih =>
      have hencode : encode inPath (c :: r) = encodeChar inPath c ++ encode inPath r := rfl
      rw [hencode, encodeChar, decoded_cons h]
      cases hc : inPath c with
      | true => rw [if_pos rfl, decoded_flatMap_spell, ih]
      | false =>
          have hapart : ¬ Spelt (c :: encode inPath r) := by
            rintro ⟨x, y, r', heq, hx, hy⟩
            obtain ⟨rfl, hr⟩ := List.cons.inj heq
            have hne {z : Char} (hz : (hexValue? z).isSome = true) : z ≠ '%' := by
              rintro rfl
              cases hz
            obtain ⟨ds, rfl, hds⟩ := exists_of_encode hr (hne hx)
            obtain ⟨es, rfl, -⟩ := exists_of_encode hds (hne hy)
            exact h ⟨x, y, es, rfl, hx, hy⟩
          rw [if_neg (by decide), List.singleton_append, decoded_cons hapart, ih]

theorem length_decoded_le (cs : List Char) :
    (decoded cs).length ≤ (Text.charBytes cs).length := by
  induction cs using decoded_induction with
  | nil => exact Nat.le_refl 0
  | spelling x y r high low hx hy ih =>
      rw [decoded_spelling hx hy]
      simp only [List.length_cons, Text.charBytes_cons, List.length_append,
        String.length_utf8EncodeChar]
      have hsize := Char.utf8Size_pos x
      omega
  | cons c r h ih =>
      rw [decoded_cons h, Text.bytes_toString, Text.charBytes_cons, List.length_append,
        List.length_append]
      omega

/-- Characters stand for their own bytes unless a byte is spelled among them. -/
theorem decoded_eq_iff (cs : List Char) :
    decoded cs = Text.charBytes cs ↔ ∀ ds, ds <:+ cs → ¬ Spelt ds := by
  induction cs using decoded_induction with
  | nil =>
      refine ⟨fun _ ds hds => ?_, fun _ => rfl⟩
      rw [List.suffix_nil.1 hds]
      rintro ⟨x, y, r, heq, -, -⟩
      cases heq
  | spelling x y r high low hx hy ih =>
      constructor
      · intro h
        have hlength := congrArg List.length h
        have hle := length_decoded_le r
        rw [decoded_spelling hx hy] at hlength
        simp only [List.length_cons, Text.charBytes_cons, List.length_append,
          String.length_utf8EncodeChar] at hlength
        have hsize := Char.utf8Size_pos x
        have hsize' := Char.utf8Size_pos y
        omega
      · intro h
        exact absurd ⟨x, y, r, rfl, Option.isSome_of_eq_some hx, Option.isSome_of_eq_some hy⟩
          (h _ List.suffix_rfl)
  | cons c r h ih =>
      rw [decoded_cons h, Text.bytes_toString, Text.charBytes_cons, List.append_cancel_left_eq, ih]
      constructor
      · intro hr ds hds
        rcases List.suffix_cons_iff.1 hds with rfl | hds
        · exact h
        · exact hr ds hds
      · intro hcs ds hds
        exact hcs ds (hds.trans (List.suffix_cons c r))

theorem hexValue?_of_toLower
    {c : Char} (h : c.toLower = 'e') :
    hexValue? c = some 14 := by
  delta Char.toLower at h
  split at h
  · have hval : c.val + ('a'.val - 'A'.val) = 'E'.val + ('a'.val - 'A'.val) :=
      (congrArg Char.val h).trans (by decide)
    rw [Char.ext ((UInt32.add_left_inj _).1 hval)]
    rfl
  · rw [h]
    rfl

/-- Segments of points stand for points. -/
theorem decoded_of_points
    {s : List Char} (h : points s ≠ 0) :
    decoded s = Text.charBytes ['.'] ∨ decoded s = Text.charBytes ['.', '.'] := by
  have hpoint (r : List Char) : decoded ('.' :: r) = 46 :: decoded r := by
    refine decoded_cons ?_
    rintro ⟨x, y, r', heq, -, -⟩
    cases heq
  have hspelling {x : Char} (hx : x.toLower = 'e') (r : List Char) :
      decoded ('%' :: '2' :: x :: r) = 46 :: decoded r :=
    decoded_spelling (show hexValue? '2' = some 2 from rfl) (hexValue?_of_toLower hx) r
  rw [points.eq_def] at h
  split at h
  · exact .inl rfl
  · exact .inr rfl
  · rename_i x
    have hx : x.toLower = 'e' := by simpa using h
    exact .inl (hspelling hx [])
  · rename_i x
    have hx : x.toLower = 'e' := by simpa using h
    rw [hpoint, hspelling hx]
    exact .inr rfl
  · rename_i x
    have hx : x.toLower = 'e' := by simpa using h
    rw [hspelling hx, hpoint]
    exact .inr rfl
  · rename_i x y
    have hxy : x.toLower = 'e' ∧ y.toLower = 'e' := by simpa using h
    rw [hspelling hxy.1, hspelling hxy.2]
    exact .inr rfl
  · exact absurd rfl h

theorem length_decoded_pos_of_points
    {s : List Char} (h : points s ≠ 0) :
    0 < (decoded s).length := by
  rcases decoded_of_points h with hone | htwo
  · rw [hone]
    decide
  · rw [htwo]
    decide

end Url
end Gateway
end DealDesk
