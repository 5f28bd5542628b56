import DealDesk.Settings.Config
import DealDesk.Proofs.Cipher.Base64
import Mathlib.Logic.ExistsUnique

/-!
# Texts of keys

A key is spelled by one text.  What is read as that key is this text with blanks around it,
and every other text is refused, for what it spells if it is the spelling of something else,
and for not being a spelling if it is none.  The key among the secrets of an environment is
read in the same way, and so are the two texts of a sealed content, which may not even have
blanks around them.

**Results.** `Text.trimmed_eq_iff`: the text that is left without the blanks at the ends.
`keyOfText_eq_ok_iff`, `keyOfText_of_length` and `keyOfText_of_not_text`: what a text is read
as.  `key_texts_canonical`: each key has its one text.
-/

namespace DealDesk
namespace Text

/-- The second text is the first one without the blanks at its ends. -/
structure Trims (s t : String) : Prop where
  framed : ∃ front back, (∀ c ∈ front, isBlank c = true) ∧ (∀ c ∈ back, isBlank c = true)
    ∧ s.toList = front ++ t.toList ++ back
  first : ∀ c, t.toList.head? = some c → isBlank c = false
  last : ∀ c, t.toList.getLast? = some c → isBlank c = false

theorem trim_framed
    {front cs back : List Char} (hfront : ∀ c ∈ front, isBlank c = true)
    (hback : ∀ c ∈ back, isBlank c = true)
    (hfirst : ∀ c, cs.head? = some c → isBlank c = false)
    (hlast : ∀ c, cs.getLast? = some c → isBlank c = false) :
    trim (front ++ cs ++ back) = cs := by
  cases cs with
  | nil =>
      -- With nothing between the blanks, all of them are left out at the front.
      have hall : ∀ c ∈ front ++ back, isBlank c = true := fun c hc =>
        (List.mem_append.1 hc).elim (hfront c) (hback c)
      have hnone : (front ++ [] ++ back).dropWhile isBlank = [] := by
        have hdropped := @dropWhile_framed _ [] hall (by simp)
        rwa [List.append_nil] at hdropped ⊢
      rw [trim, trimFront, hnone]
      rfl
  | cons c r =>
      have hfrontless : (front ++ (c :: r) ++ back).dropWhile isBlank = c :: r ++ back := by
        rw [List.append_assoc]
        exact dropWhile_framed hfront hfirst
      have hbackless : (back.reverse ++ (c :: r).reverse).dropWhile isBlank = (c :: r).reverse :=
        dropWhile_framed (fun b hb => hback b (List.mem_reverse.1 hb))
          fun b hb => hlast b (by rwa [List.head?_reverse] at hb)
      rw [trim, trimFront, hfrontless, trimBack, List.reverse_append, hbackless,
        List.reverse_reverse]

/-- What is left out at the end is blank. -/
theorem trimBack_append (cs : List Char) :
    trimBack cs ++ (cs.reverse.takeWhile isBlank).reverse = cs := by
  rw [trimBack, ← List.reverse_append, List.takeWhile_append_dropWhile, List.reverse_reverse]

theorem trims_trimmed (s : String) : Trims s (trimmed s) where
  framed := by
    have hblank (cs : List Char) : ∀ c ∈ cs.takeWhile isBlank, isBlank c = true := fun c hc =>
      List.all_eq_true.1 List.all_takeWhile c hc
    refine ⟨s.toList.takeWhile isBlank, ((trimFront s.toList).reverse.takeWhile isBlank).reverse,
      hblank _, fun c hc => hblank _ c (List.mem_reverse.1 hc), ?_⟩
    rw [trimmed, String.toList_ofList, List.append_assoc, trim, trimBack_append]
    exact List.takeWhile_append_dropWhile.symm
  first c hc := by
    rw [trimmed, String.toList_ofList, trim] at hc
    obtain ⟨r, hr⟩ := List.head?_eq_some_iff.1 hc
    have hfront := trimBack_append (trimFront s.toList)
    rw [hr, List.cons_append] at hfront
    exact trimFront_head_not_blank hfront.symm
  last c hc := by
    rw [trimmed, String.toList_ofList] at hc
    exact getLast?_trimBack_not_blank hc

/-- A text without the blanks at its ends is settled. -/
theorem trimmed_eq_iff {s t : String} : trimmed s = t ↔ Trims s t := by
  refine ⟨fun h => h ▸ trims_trimmed s, fun h => ?_⟩
  obtain ⟨front, back, hfront, hback, hs⟩ := h.framed
  rw [trimmed, hs, trim_framed hfront hback h.first h.last, String.ofList_toList]

end Text
namespace Cipher.Base64

theorem not_blank_of_mem_text
    (bs : Bytes) {c : Char} (hc : c ∈ (text bs).toList) :
    Text.isBlank c = false := by
  have hsymbols : ∀ v < 64, Text.isBlank (Char.ofNat (symbol v).toNat) = false := by
    decide
  rw [text, String.toList_ofList, List.mem_map] at hc
  obtain ⟨x, hx, rfl⟩ := hc
  rcases mem_encode bs hx with rfl | ⟨v, hv, rfl⟩
  · decide
  · exact hsymbols v hv

/-- The spelling of bytes has no blanks at its ends. -/
theorem trims_text (bs : Bytes) : Text.Trims (text bs) (text bs) where
  framed := ⟨[], [], by simp, by simp, by simp⟩
  first _ hc := not_blank_of_mem_text bs (List.mem_of_head? hc)
  last _ hc := not_blank_of_mem_text bs (List.mem_of_getLast? hc)

end Cipher.Base64

namespace Vault

open Cipher

/-- What a text is read as that spells bytes. -/
theorem keyOfText_of_text
    {s : String} {bs : Bytes} (h : Text.Trims s (Base64.text bs)) :
    keyOfText s
      = match Key.ofBytes? bs with
        | none => .error (.wrongLength bs.length)
        | some k => .ok k := by
  have hdecode : Base64.decode (Text.bytes (Text.trimmed s)) = .ok bs := by
    rw [Text.trimmed_eq_iff.2 h, Base64.decode_bytes_text]
  cases hkey : Key.ofBytes? bs with
  | none => simp only [keyOfText, hdecode, hkey]
  | some k => simp only [keyOfText, hdecode, hkey]

/-- A text that spells bytes which are too few or too many for a key is refused. -/
theorem keyOfText_of_length
    {s : String} {bs : Bytes} (h : Text.Trims s (Base64.text bs)) (hlength : bs.length ≠ 32) :
    keyOfText s = .error (.wrongLength bs.length) := by
  have hnone : Key.ofBytes? bs = none := dif_neg hlength
  rw [keyOfText_of_text h, hnone]

/-- A text that spells no bytes is refused. -/
theorem keyOfText_of_not_text
    {s : String} (h : ∀ bs, ¬ Text.Trims s (Base64.text bs)) :
    ∃ fault, keyOfText s = .error (.notBase64 fault) := by
  cases hdecode : Base64.decode (Text.bytes (Text.trimmed s)) with
  | error fault =>
      refine ⟨fault, ?_⟩
      simp only [keyOfText, hdecode]
  | ok bs => exact absurd (Text.trimmed_eq_iff.1 (Base64.decode_bytes_eq_ok_iff.1 hdecode)) (h bs)

/-- A text is read as a key exactly if it is the text of the key, blanks at the ends aside. -/
theorem keyOfText_eq_ok_iff
    {s : String} {k : Key} :
    keyOfText s = .ok k ↔ Text.Trims s (keyText k) := by
  constructor
  · intro h
    by_cases htext : ∃ bs, Text.Trims s (Base64.text bs)
    · obtain ⟨bs, hbs⟩ := htext
      by_cases hlength : bs.length = 32
      · rw [keyOfText_of_text hbs, Key.ofBytes?, dif_pos hlength] at h
        cases h
        exact hbs
      · rw [keyOfText_of_length hbs hlength] at h
        cases h
    · obtain ⟨fault, hfault⟩ := keyOfText_of_not_text (not_exists.1 htext)
      rw [hfault] at h
      cases h
  · intro h
    rw [keyOfText_of_text h, Key.ofBytes?_bytes]

end Vault

namespace Settings.Secrets

/-- The secrets have a key exactly if the variable is a text of it and not empty. -/
theorem cacheKey_eq_some_iff
    {e : Environment} {k : Cipher.Key} :
    (∃ secrets, ofEnvironment e = .ok secrets ∧ secrets.cacheKey = some k)
      ↔ ∃ v, e.value? "IG_CACHE_KEY" = some v ∧ v ≠ "" ∧ Text.Trims v (Vault.keyText k) := by
  have hfilled (v : String) :
      e.filled? "IG_CACHE_KEY" = some v ↔ e.value? "IG_CACHE_KEY" = some v ∧ v ≠ "" := by
    simp [Environment.filled?, Option.filter_eq_some_iff]
  constructor
  · rintro ⟨secrets, hsecrets, hkey⟩
    rw [ofEnvironment] at hsecrets
    cases hv : e.filled? "IG_CACHE_KEY" with
    | none =>
        rw [hv] at hsecrets
        cases hsecrets
        cases hkey
    | some v =>
        simp only [hv] at hsecrets
        cases hread : Vault.keyOfText v with
        | error fault =>
            simp only [hread] at hsecrets
            cases hsecrets
        | ok k' =>
            simp only [hread] at hsecrets
            cases hsecrets
            cases hkey
            obtain ⟨hvalue, hne⟩ := (hfilled v).1 hv
            exact ⟨v, hvalue, hne, Vault.keyOfText_eq_ok_iff.1 hread⟩
  · rintro ⟨v, hvalue, hne, htrims⟩
    have hv := (hfilled v).2 ⟨hvalue, hne⟩
    have hread := Vault.keyOfText_eq_ok_iff.2 htrims
    refine ⟨⟨e.filled? "IG_API_KEY", e.filled? "IG_PASSWORD", some k⟩, ?_, rfl⟩
    simp only [ofEnvironment, hv, hread]

end Settings.Secrets

/--
A text is read as a key exactly if it is the text of the key with blanks around it, so each
key is read from its text, and from no other that has no blanks at its ends; whatever else is
read is refused for what it spells, or for not being a spelling.  The key of an environment is
read in this way from a variable that is not empty.  Of the texts in a sealed content no two
spell the same bytes.
-/
theorem Vault.key_texts_canonical :
    (∀ (s : String) (k : Cipher.Key), keyOfText s = .ok k ↔ Text.Trims s (keyText k))
      ∧ (∀ k : Cipher.Key, ∃! s, keyOfText s = .ok k ∧ Text.Trims s s)
      ∧ (∀ k : Cipher.Key, keyOfText (keyText k) = .ok k)
      ∧ (∀ s bs, Text.Trims s (Cipher.Base64.text bs) → bs.length ≠ 32 →
        keyOfText s = .error (.wrongLength bs.length))
      ∧ (∀ s, (∀ bs, ¬ Text.Trims s (Cipher.Base64.text bs)) →
        ∃ fault, keyOfText s = .error (.notBase64 fault))
      ∧ (∀ (e : Environment) (k : Cipher.Key),
        (∃ secrets, Settings.Secrets.ofEnvironment e = .ok secrets ∧ secrets.cacheKey = some k)
          ↔ ∃ v, e.value? "IG_CACHE_KEY" = some v ∧ v ≠ "" ∧ Text.Trims v (keyText k))
      ∧ ∀ (s t : String) (bs : Cipher.Bytes), Cipher.Base64.decode (Text.bytes s) = .ok bs →
        Cipher.Base64.decode (Text.bytes t) = .ok bs → s = t := by
  refine ⟨fun s k => keyOfText_eq_ok_iff, fun k => ?_, fun k => ?_, fun s bs => keyOfText_of_length,
    fun s => keyOfText_of_not_text, fun e k => Settings.Secrets.cacheKey_eq_some_iff, ?_⟩
  · have htext := Cipher.Base64.trims_text k.bytes
    refine ⟨keyText k, ⟨keyOfText_eq_ok_iff.2 htext, htext⟩, fun s hs => ?_⟩
    rw [← Text.trimmed_eq_iff.2 hs.2]
    exact Text.trimmed_eq_iff.2 (keyOfText_eq_ok_iff.1 hs.1)
  · exact keyOfText_eq_ok_iff.2 (Cipher.Base64.trims_text k.bytes)
  · intro s t bs hs ht
    rw [Cipher.Base64.decode_bytes_eq_ok_iff.1 hs, Cipher.Base64.decode_bytes_eq_ok_iff.1 ht]

/-- The key of the bytes up to 31. -/
def Cipher.Key.specimen : Key where
  bytes := (List.range 32).map UInt8.ofNat
  length_bytes := by decide

/-- The text of a key between blanks, that of half a key, and a text of nothing. -/
theorem Vault.key_texts_canonical_specimen :
    keyOfText (" " ++ keyText .specimen ++ "\n") = .ok .specimen
      ∧ keyOfText (Cipher.Base64.text (List.replicate 16 0)) = .error (.wrongLength 16)
      ∧ (∃ fault, keyOfText "not base64!" = .error (.notBase64 fault))
      ∧ (∃ secrets, Settings.Secrets.ofEnvironment ⟨[("IG_CACHE_KEY", keyText .specimen)], none⟩
          = .ok secrets ∧ secrets.cacheKey = some .specimen)
      ∧ ∀ t, Cipher.Base64.decode (Text.bytes t) = .ok [0] → "AA==" = t := by
  obtain ⟨hkey, -, -, hlength, htext, hsecrets, hone⟩ := key_texts_canonical
  refine ⟨(hkey _ _).2 ?_, hlength _ _ (Cipher.Base64.trims_text _) (by decide), htext _ ?_,
    (hsecrets _ _).2 ⟨keyText .specimen, ?_, by decide +kernel, Cipher.Base64.trims_text _⟩,
    fun t => hone "AA==" t [0] (Cipher.Base64.decode_bytes_eq_ok_iff.2 (by decide +kernel))⟩
  · exact Text.trimmed_eq_iff.1 (by decide +kernel)
  · intro bs hbs
    have hread : Cipher.Base64.decode (Text.bytes "not base64!") = .ok bs := by
      rw [Cipher.Base64.decode_bytes_eq_ok_iff, ← Text.trimmed_eq_iff.2 hbs]
      decide +kernel
    have hnone : (Cipher.Base64.decode (Text.bytes "not base64!")).toOption = none := by
      decide +kernel
    rw [hread] at hnone
    cases hnone
  · simp [Environment.value?]

end DealDesk
