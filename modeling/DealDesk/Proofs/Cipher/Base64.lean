import DealDesk.Cipher.Base64
import DealDesk.Text.Utf8

/-!
# Base 64 read back

Bytes are written three at a time, so the induction takes three of them at a step
and ends with none, one or two.  The symbols are ASCII, and a text of ASCII has one
byte for each character.  The reader takes four symbols at a step; each group that it
takes is the one that is written for its bytes.

**Results.** `Base64.decode_bytes_text`: the bytes of the spelling of bytes are read
back as those bytes.  `Base64.decode_bytes_eq_ok_iff`: no other text is read as they are.
-/

namespace DealDesk

namespace Text

theorem bytes_ascii
    {bs : List UInt8} (h : ∀ b ∈ bs, b.toNat < 128) :
    bytes (String.ofList (bs.map fun b => Char.ofNat b.toNat)) = bs := by
  have hchar : ∀ n : Fin 128, String.utf8EncodeChar (Char.ofNat n.val) = [UInt8.ofNat n.val] := by
    decide
  have hflat : (bs.map fun b => Char.ofNat b.toNat).flatMap String.utf8EncodeChar = bs := by
    induction bs with
    | nil => rfl
    | cons b bs ih =>
        have hb := hchar ⟨b.toNat, h b List.mem_cons_self⟩
        rw [List.map_cons, List.flatMap_cons, ih fun c hc => h c (List.mem_cons_of_mem b hc), hb,
          UInt8.ofNat_toNat]
        rfl
  rw [bytes, String.toByteArray_ofList, List.utf8Encode, hflat]
  simp

end Text

namespace Cipher
namespace Base64

theorem symbol_bounds :
    ∀ v < 64, (symbol v).toNat < 128 ∧ symbol v ≠ pad := by
  decide

theorem value_symbol
    {v : Nat} (h : v < 64) (offset : Nat) :
    value (symbol v) offset = .ok v := by
  rw [value, value?_symbol v h]

theorem length_encode (bs : Bytes) :
    (encode bs).length % 4 = 0 := by
  induction bs using encode.induct with
  | case1 => rfl
  | case2 a => simp [encode]
  | case3 a b => simp [encode]
  | case4 a b c r ih =>
      simp only [encode, List.length_cons]
      omega

/-- The spelling of bytes has symbols of values in it, and pads. -/
theorem mem_encode
    (bs : Bytes) {x : UInt8} (hx : x ∈ encode bs) :
    x = pad ∨ ∃ v < 64, x = symbol v := by
  induction bs using encode.induct with
  | case1 => exact absurd hx List.not_mem_nil
  | case2 a =>
      have ha := a.toNat_lt
      simp only [encode, List.mem_cons, List.not_mem_nil, or_false] at hx
      rcases hx with rfl | rfl | rfl | rfl
      · exact .inr ⟨_, by omega, rfl⟩
      · exact .inr ⟨_, by omega, rfl⟩
      · exact .inl rfl
      · exact .inl rfl
  | case3 a b =>
      have ha := a.toNat_lt
      have hb := b.toNat_lt
      simp only [encode, List.mem_cons, List.not_mem_nil, or_false] at hx
      rcases hx with rfl | rfl | rfl | rfl
      · exact .inr ⟨_, by omega, rfl⟩
      · exact .inr ⟨_, by omega, rfl⟩
      · exact .inr ⟨_, by omega, rfl⟩
      · exact .inl rfl
  | case4 a b c r ih =>
      have ha := a.toNat_lt
      have hb := b.toNat_lt
      have hc := c.toNat_lt
      simp only [encode, List.mem_cons] at hx
      rcases hx with rfl | rfl | rfl | rfl | hx
      · exact .inr ⟨_, by omega, rfl⟩
      · exact .inr ⟨_, by omega, rfl⟩
      · exact .inr ⟨_, by omega, rfl⟩
      · exact .inr ⟨_, by omega, rfl⟩
      · exact ih hx

theorem ascii_encode
    (bs : Bytes) {x : UInt8} (hx : x ∈ encode bs) :
    x.toNat < 128 := by
  rcases mem_encode bs hx with rfl | ⟨v, hv, rfl⟩
  · decide
  · exact (symbol_bounds v hv).1

theorem triple_values (a b c : UInt8) :
    triple (a.toNat / 4) (a.toNat % 4 * 16 + b.toNat / 16)
      (b.toNat % 16 * 4 + c.toNat / 64) (c.toNat % 64) = [a, b, c] := by
  have ha := a.toNat_lt
  have hb := b.toNat_lt
  have hc := c.toNat_lt
  have hfirst : a.toNat / 4 * 4 + (a.toNat % 4 * 16 + b.toNat / 16) / 16 = a.toNat := by omega
  have hsecond : (a.toNat % 4 * 16 + b.toNat / 16) % 16 * 16
      + (b.toNat % 16 * 4 + c.toNat / 64) / 4 = b.toNat := by omega
  have hthird : (b.toNat % 16 * 4 + c.toNat / 64) % 4 * 64 + c.toNat % 64 = c.toNat := by omega
  rw [triple, hfirst, hsecond, hthird, UInt8.ofNat_toNat, UInt8.ofNat_toNat, UInt8.ofNat_toNat]

/-- Symbols in the last group, with the pads behind them. -/
theorem lastValues_symbols
    {vs : List Nat} (hvs : ∀ v ∈ vs, v < 64) (offset pads : Nat) {i : Nat}
    (hi : pads = 0 ∨ 2 ≤ i + vs.length) :
    lastValues offset i (vs.map symbol ++ List.replicate pads pad) = .ok (vs, pads) := by
  induction vs generalizing i with
  | nil =>
      cases pads with
      | zero => rfl
      | succ pads =>
          have hlt : ¬ i < 2 := by
            simp only [List.length_nil] at hi
            omega
          simp [List.replicate_succ, lastValues, hlt]
  | cons v vs ih =>
      have hv := hvs v List.mem_cons_self
      have hrest := @ih (fun w hw => hvs w (List.mem_cons_of_mem v hw)) (i + 1) (by
        simp only [List.length_cons] at hi
        omega)
      rw [List.map_cons, List.cons_append, lastValues, if_neg (symbol_bounds v hv).2,
        value_symbol hv]
      simp only [hrest]

/-- A last group of one byte. -/
theorem lastGroup_one (offset : Nat) (a : UInt8) :
    lastGroup offset (encode [a]) = .ok [a] := by
  have ha := a.toNat_lt
  have hfirst : a.toNat / 4 * 4 + a.toNat % 4 * 16 / 16 = a.toNat := by omega
  have hvalues := @lastValues_symbols [a.toNat / 4, a.toNat % 4 * 16]
    (by simp only [List.mem_cons, List.not_mem_nil, or_false]; omega) offset 2 0 (by simp)
  rw [encode, lastGroup]
  simp only [List.map_cons, List.map_nil, List.cons_append, List.nil_append,
    show List.replicate 2 pad = [pad, pad] from rfl] at hvalues
  simp only [hvalues]
  rw [if_neg (by simp), if_neg (by simp), if_pos (by omega), hfirst, UInt8.ofNat_toNat]

theorem lastGroup_two (offset : Nat) (a b : UInt8) :
    lastGroup offset (encode [a, b]) = .ok [a, b] := by
  have ha := a.toNat_lt
  have hb := b.toNat_lt
  have hfirst : a.toNat / 4 * 4 + (a.toNat % 4 * 16 + b.toNat / 16) / 16 = a.toNat := by omega
  have hsecond : (a.toNat % 4 * 16 + b.toNat / 16) % 16 * 16 + b.toNat % 16 * 4 / 4
      = b.toNat := by omega
  have hvalues := @lastValues_symbols
    [a.toNat / 4, a.toNat % 4 * 16 + b.toNat / 16, b.toNat % 16 * 4]
    (by simp only [List.mem_cons, List.not_mem_nil, or_false]; omega) offset 1 0 (by simp)
  rw [encode, lastGroup]
  simp only [List.map_cons, List.map_nil, List.cons_append, List.nil_append,
    show List.replicate 1 pad = [pad] from rfl] at hvalues
  simp only [hvalues]
  rw [if_neg (by simp), if_neg (by simp), if_pos (by omega), hfirst, hsecond, UInt8.ofNat_toNat,
    UInt8.ofNat_toNat]

theorem lastGroup_three (offset : Nat) (a b c : UInt8) :
    lastGroup offset (encode [a, b, c]) = .ok [a, b, c] := by
  have ha := a.toNat_lt
  have hb := b.toNat_lt
  have hc := c.toNat_lt
  have hvalues := @lastValues_symbols
    [a.toNat / 4, a.toNat % 4 * 16 + b.toNat / 16, b.toNat % 16 * 4 + c.toNat / 64, c.toNat % 64]
    (by simp only [List.mem_cons, List.not_mem_nil, or_false]; omega) offset 0 0 (by simp)
  rw [encode, encode, lastGroup]
  simp only [List.map_cons, List.map_nil, List.cons_append, List.nil_append,
    show List.replicate 0 pad = [] from rfl] at hvalues
  simp only [hvalues]
  rw [if_neg (by simp), if_neg (by simp), triple_values]

theorem groups_three (offset : Nat) (a b c : UInt8) {r : Bytes} (hr : encode r ≠ []) :
    groups offset (encode (a :: b :: c :: r))
      = (groups (offset + 4) (encode r)).map ([a, b, c] ++ ·) := by
  have ha := a.toNat_lt
  have hb := b.toNat_lt
  have hc := c.toNat_lt
  cases hrest : encode r with
  | nil => exact absurd hrest hr
  | cons e r' =>
      rw [encode, hrest, groups, fullGroup, value_symbol (by omega), value_symbol (by omega),
        value_symbol (by omega), value_symbol (by omega)]
      simp only [← triple_values a b c]
      rfl

theorem groups_encode (offset : Nat) (bs : Bytes) :
    groups offset (encode bs) = .ok bs := by
  induction bs using encode.induct generalizing offset with
  | case1 => rfl
  | case2 a => exact lastGroup_one offset a
  | case3 a b => exact lastGroup_two offset a b
  | case4 a b c r ih =>
      cases r with
      | nil => exact lastGroup_three offset a b c
      | cons d r =>
          have hr : encode (d :: r) ≠ [] := by
            rcases r with _ | ⟨e, _ | ⟨f, r⟩⟩ <;> exact List.cons_ne_nil _ _
          rw [groups_three offset a b c hr, ih]
          rfl

/-- The spelling of bytes is read back as those bytes. -/
theorem decode_encode (bs : Bytes) :
    decode (encode bs) = .ok bs := by
  have hlen := length_encode bs
  have hend : strayEnd (encode bs) = none := by
    rw [strayEnd]
    cases (encode bs).getLast? with
    | none => rfl
    | some b => exact if_neg fun h => by omega
  rw [decode, hend]
  exact groups_encode 0 bs

/-- The bytes of the text of bytes are read back as those bytes. -/
theorem decode_bytes_text (bs : Bytes) :
    decode (Text.bytes (text bs)) = .ok bs := by
  rw [text, Text.bytes_ascii fun b hb => ascii_encode bs hb, decode_encode]

/-! ### Only what is written is read -/

theorem value_eq_ok_iff
    {b : UInt8} {offset v : Nat} :
    value b offset = .ok v ↔ v < 64 ∧ b = symbol v := by
  constructor
  · intro h
    rw [value] at h
    cases hv : value? b with
    | none =>
        rw [hv] at h
        cases h
    | some w =>
        rw [hv] at h
        cases h
        exact ⟨(symbol_of_value? hv).1, (symbol_of_value? hv).2.symm⟩
  · rintro ⟨hv, rfl⟩
    exact value_symbol hv offset

/-- What is read as values are their symbols, and pads behind them. -/
theorem eq_of_lastValues
    {offset i pads : Nat} {group : Bytes} {vs : List Nat}
    (h : lastValues offset i group = .ok (vs, pads)) :
    (∀ v ∈ vs, v < 64) ∧ group = vs.map symbol ++ List.replicate pads pad := by
  induction group generalizing i vs with
  | nil =>
      cases h
      exact ⟨fun v hv => absurd hv List.not_mem_nil, rfl⟩
  | cons b r ih =>
      rw [lastValues] at h
      by_cases hb : b = pad
      · rw [if_pos hb] at h
        by_cases hi : i < 2
        · rw [if_pos hi] at h
          cases h
        · by_cases hall : r.all (· = pad)
          · rw [if_neg hi, if_pos hall] at h
            cases h
            have hr : r = List.replicate r.length pad :=
              List.eq_replicate_iff.2 ⟨rfl, fun c hc => by simpa using List.all_eq_true.1 hall c hc⟩
            refine ⟨fun v hv => absurd hv List.not_mem_nil, ?_⟩
            rw [List.map_nil, List.nil_append, List.replicate_succ, ← hr, hb]
          · rw [if_neg hi, if_neg hall] at h
            cases h
      · rw [if_neg hb] at h
        cases hv : value b (offset + i) with
        | error e =>
            rw [hv] at h
            cases h
        | ok v =>
            cases hrest : lastValues offset (i + 1) r with
            | error e =>
                simp only [hv, hrest] at h
                cases h
            | ok p =>
                obtain ⟨ws, n⟩ := p
                simp only [hv, hrest] at h
                cases h
                obtain ⟨hlt, rfl⟩ := value_eq_ok_iff.1 hv
                obtain ⟨hws, rfl⟩ := ih hrest
                exact ⟨List.forall_mem_cons.2 ⟨hlt, hws⟩, rfl⟩

-- The bound is written out for `omega`, which does not know the size of a byte by name.
theorem toNat_byte {n : Nat} (h : n < 256) :
    (UInt8.ofNat n).toNat = n :=
  UInt8.toNat_ofNat_of_lt' h

/-- The symbols of the byte that two values stand for. -/
theorem encode_pair
    {a b : Nat} (ha : a < 64) (hb : b < 64) (hlow : b % 16 = 0) :
    encode [UInt8.ofNat (a * 4 + b / 16)] = [symbol a, symbol b, pad, pad] := by
  have hfirst : (a * 4 + b / 16) / 4 = a := by omega
  have hsecond : (a * 4 + b / 16) % 4 * 16 = b := by omega
  rw [encode, toNat_byte (by omega), hfirst, hsecond]

/-- The symbols of the two bytes that three values stand for. -/
theorem encode_three
    {a b c : Nat} (ha : a < 64) (hb : b < 64) (hc : c < 64) (hlow : c % 4 = 0) :
    encode [UInt8.ofNat (a * 4 + b / 16), UInt8.ofNat (b % 16 * 16 + c / 4)]
      = [symbol a, symbol b, symbol c, pad] := by
  have hfirst : (a * 4 + b / 16) / 4 = a := by omega
  have hsecond : (a * 4 + b / 16) % 4 * 16 + (b % 16 * 16 + c / 4) / 16 = b := by omega
  have hthird : (b % 16 * 16 + c / 4) % 16 * 4 = c := by omega
  rw [encode, toNat_byte (by omega), toNat_byte (by omega), hfirst, hsecond, hthird]

/-- The symbols of the three bytes that four values stand for, with more behind them. -/
theorem encode_triple
    {a b c d : Nat} (ha : a < 64) (hb : b < 64) (hc : c < 64) (hd : d < 64) (r : Bytes) :
    encode (triple a b c d ++ r) = symbol a :: symbol b :: symbol c :: symbol d :: encode r := by
  have hfirst : (a * 4 + b / 16) / 4 = a := by omega
  have hsecond : (a * 4 + b / 16) % 4 * 16 + (b % 16 * 16 + c / 4) / 16 = b := by omega
  have hthird : (b % 16 * 16 + c / 4) % 16 * 4 + (c % 4 * 64 + d) / 64 = c := by omega
  have hfourth : (c % 4 * 64 + d) % 64 = d := by omega
  rw [triple, List.cons_append, List.cons_append, List.cons_append, List.nil_append, encode,
    toNat_byte (by omega), toNat_byte (by omega), toNat_byte (by omega), hfirst, hsecond, hthird,
    hfourth]

/-- A last group that is read is the spelling of what is read. -/
theorem eq_of_lastGroup
    {offset : Nat} {group bs : Bytes} (hlength : group.length ≤ 4)
    (h : lastGroup offset group = .ok bs) :
    group = encode bs := by
  rw [lastGroup] at h
  cases hvalues : lastValues offset 0 group with
  | error e =>
      rw [hvalues] at h
      cases h
  | ok p =>
      obtain ⟨vs, pads⟩ := p
      obtain ⟨hvs, hgroup⟩ := eq_of_lastValues hvalues
      have hsum : vs.length + pads ≤ 4 := by
        rwa [hgroup, List.length_append, List.length_map, List.length_replicate] at hlength
      simp only [hvalues] at h
      by_cases hshort : vs.length < 2 ∧ group ≠ []
      · rw [if_pos hshort] at h
        cases h
      by_cases hpads : (vs.length + pads) % 4 ≠ 0
      · rw [if_neg hshort, if_pos hpads] at h
        cases h
      rw [if_neg hshort, if_neg hpads] at h
      -- The group is full, so the number of values settles that of the pads.
      rcases vs with _ | ⟨a, _ | ⟨b, _ | ⟨c, _ | ⟨d, _ | ⟨e, vs⟩⟩⟩⟩⟩
      · cases h
        exact Classical.byContradiction fun hne => hshort ⟨by simp, hne⟩
      · refine absurd ⟨by simp, ?_⟩ hshort
        rw [hgroup]
        exact List.cons_ne_nil _ _
      · have htwo : pads = 2 := by
          simp only [List.length_cons, List.length_nil] at hsum hpads
          omega
        by_cases hlow : b % 16 = 0
        · simp only [if_pos hlow] at h
          cases h
          rw [encode_pair (hvs a (by simp)) (hvs b (by simp)) hlow, hgroup, htwo]
          rfl
        · simp only [if_neg hlow] at h
          cases h
      · have hone : pads = 1 := by
          simp only [List.length_cons, List.length_nil] at hsum hpads
          omega
        by_cases hlow : c % 4 = 0
        · simp only [if_pos hlow] at h
          cases h
          rw [encode_three (hvs a (by simp)) (hvs b (by simp)) (hvs c (by simp)) hlow, hgroup,
            hone]
          rfl
        · simp only [if_neg hlow] at h
          cases h
      · have hnone : pads = 0 := by
          simp only [List.length_cons, List.length_nil] at hsum
          omega
        cases h
        have hencode := encode_triple (hvs a (by simp)) (hvs b (by simp)) (hvs c (by simp))
          (hvs d (by simp)) []
        rw [List.append_nil] at hencode
        rw [hencode, hgroup, hnone]
        rfl
      · simp only [List.length_cons] at hsum
        omega

/-- A full group that is read has the symbols of four values. -/
theorem eq_of_fullGroup
    {offset : Nat} {a b c d : UInt8} {bs : Bytes} (h : fullGroup offset a b c d = .ok bs)
    (r : Bytes) :
    a :: b :: c :: d :: encode r = encode (bs ++ r) := by
  rw [fullGroup] at h
  cases hw : value a offset with
  | error e =>
      rw [hw] at h
      cases h
  | ok w =>
      cases hx : value b (offset + 1) with
      | error e =>
          rw [hw, hx] at h
          cases h
      | ok x =>
          cases hy : value c (offset + 2) with
          | error e =>
              rw [hw, hx, hy] at h
              cases h
          | ok y =>
              cases hz : value d (offset + 3) with
              | error e =>
                  rw [hw, hx, hy, hz] at h
                  cases h
              | ok z =>
                  rw [hw, hx, hy, hz] at h
                  cases h
                  obtain ⟨hlw, rfl⟩ := value_eq_ok_iff.1 hw
                  obtain ⟨hlx, rfl⟩ := value_eq_ok_iff.1 hx
                  obtain ⟨hly, rfl⟩ := value_eq_ok_iff.1 hy
                  obtain ⟨hlz, rfl⟩ := value_eq_ok_iff.1 hz
                  exact (encode_triple hlw hlx hly hlz r).symm

/-- Groups that are read are the spelling of what is read. -/
theorem eq_of_groups
    {offset : Nat} {s bs : Bytes} (h : groups offset s = .ok bs) :
    s = encode bs := by
  induction offset, s using groups.induct generalizing bs with
  | case1 offset a b c d e r f hfull =>
      rw [groups, hfull] at h
      cases h
  | case2 offset a b c d e r front hfull ih =>
      rw [groups, hfull] at h
      cases hrest : groups (offset + 4) (e :: r) with
      | error f =>
          simp only [hrest] at h
          cases h
      | ok back =>
          simp only [hrest] at h
          cases h
          rw [ih hrest, eq_of_fullGroup hfull]
  | case3 offset group hgroup =>
      rw [groups] at h
      · refine eq_of_lastGroup ?_ h
        rcases group with _ | ⟨a, _ | ⟨b, _ | ⟨c, _ | ⟨d, _ | ⟨e, r⟩⟩⟩⟩⟩
        · decide
        · simp
        · simp
        · simp
        · simp
        · exact absurd rfl (hgroup a b c d e r)
      · exact hgroup

/-- Bytes are read as others exactly if they are the spelling of these. -/
theorem decode_eq_ok_iff
    {s bs : Bytes} :
    decode s = .ok bs ↔ s = encode bs := by
  refine ⟨fun h => ?_, fun h => h ▸ decode_encode bs⟩
  rw [decode] at h
  cases hend : strayEnd s with
  | some f =>
      rw [hend] at h
      cases h
  | none =>
      rw [hend] at h
      exact eq_of_groups h

/-- The bytes of a text are read as others exactly if it is the text of these. -/
theorem decode_bytes_eq_ok_iff
    {s : String} {bs : Bytes} :
    decode (Text.bytes s) = .ok bs ↔ s = text bs := by
  rw [decode_eq_ok_iff, ← Text.bytes_ascii fun b hb => ascii_encode bs hb]
  exact ⟨fun h => Text.bytes_injective h, fun h => congrArg Text.bytes h⟩

end Base64
end Cipher
end DealDesk
