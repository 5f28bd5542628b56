import DealDesk.Rules.Format
import Mathlib.Data.List.Basic

/-!
# The texts that have a form

A form is tested on bytes and on parts between hyphens, and it means a language: rows of
characters from a small alphabet, of a length counted in characters.  The two agree since
every alphabet is a part of ASCII, where a character is one byte; a text with a character
of several bytes fails whatever its length is.  A split at hyphens gives the parts of one
text only, so a row of two or three parts of the right kinds is the text that they make up.

**Results.** `isRow_iff`: rows by their characters.  `isExpiry_iff`: expiries by their shapes.
`forms_exact`: the texts that each form takes, and no others.
-/

namespace DealDesk

namespace Text

/-- A text of ASCII has as many bytes as characters. -/
theorem utf8ByteSize_eq_length {s : String} (h : ∀ c ∈ s.toList, c.val ≤ 127) :
    s.utf8ByteSize = s.length := by
  have hlist : ∀ cs : List Char, (∀ c ∈ cs, c.val ≤ 127) →
      (String.ofList cs).utf8ByteSize = cs.length := by
    intro cs hcs
    induction cs with
    | nil => rfl
    | cons c cs ih =>
        obtain ⟨hc, hrest⟩ := List.forall_mem_cons.1 hcs
        rw [String.ofList_cons, String.utf8ByteSize_append, String.utf8ByteSize_singleton,
          Char.utf8Size_eq_one_iff.2 hc, ih hrest, List.length_cons, Nat.add_comm]
  have hs := hlist s.toList h
  rwa [String.ofList_toList, String.length_toList] at hs

end Text

namespace Format

/-! ### Alphabets -/

/-- One of the letters A to Z. -/
def Capital (c : Char) : Prop :=
  'A' ≤ c ∧ c ≤ 'Z'

/-- One of the letters a to z. -/
def Small (c : Char) : Prop :=
  'a' ≤ c ∧ c ≤ 'z'

/-- One of the digits 0 to 9. -/
def Figure (c : Char) : Prop :=
  '0' ≤ c ∧ c ≤ '9'

/-- A letter of either case or a digit. -/
def Alphanumeric (c : Char) : Prop :=
  Capital c ∨ Small c ∨ Figure c

@[simp] theorem isCapital_iff (c : Char) :
    isCapital c = true ↔ Capital c := by
  simp [isCapital, Capital]

@[simp] theorem isDigit_iff (c : Char) :
    isDigit c = true ↔ Figure c := by
  simp [isDigit, Figure]

@[simp] theorem isAlphanumeric_iff (c : Char) :
    isAlphanumeric c = true ↔ Alphanumeric c := by
  simp [isAlphanumeric, isLetter, isDigit, Alphanumeric, Capital, Small, Figure, or_assoc]

theorem Capital.ascii {c : Char} (h : Capital c) : c.val ≤ 127 :=
  Nat.le_trans h.2 (by decide)

theorem Figure.ascii {c : Char} (h : Figure c) : c.val ≤ 127 :=
  Nat.le_trans h.2 (by decide)

theorem Alphanumeric.ascii {c : Char} (h : Alphanumeric c) : c.val ≤ 127 := by
  obtain h | h | h := h
  · exact h.ascii
  · exact Nat.le_trans h.2 (by decide)
  · exact h.ascii

/-- Letters, digits and the marks of references are within ASCII. -/
theorem ascii_of_sign
    {c : Char} (h : Alphanumeric c ∨ c = '.' ∨ c = '_' ∨ c = '-') :
    c.val ≤ 127 := by
  obtain h | rfl | rfl | rfl := h
  · exact h.ascii
  · decide
  · decide
  · decide

/-! ### Rows -/

/-- A row of an alphabet within ASCII is bounded in characters as it is in bytes. -/
theorem isRow_iff
    {kind : Char → Bool} {Kind : Char → Prop} (hkind : ∀ c, kind c = true ↔ Kind c)
    (hascii : ∀ c, Kind c → c.val ≤ 127) (low high : Nat) (s : String) :
    isRow low high kind s = true
      ↔ low ≤ s.length ∧ s.length ≤ high ∧ ∀ c ∈ s.toList, Kind c := by
  rw [isRow, Bool.and_eq_true, Bool.and_eq_true, decide_eq_true_iff, decide_eq_true_iff,
    List.all_eq_true, and_assoc]
  simp only [hkind]
  constructor
  · rintro ⟨hlow, hhigh, hall⟩
    rw [Text.utf8ByteSize_eq_length fun c hc => hascii c (hall c hc)] at hlow hhigh
    exact ⟨hlow, hhigh, hall⟩
  · rintro ⟨hlow, hhigh, hall⟩
    rw [Text.utf8ByteSize_eq_length fun c hc => hascii c (hall c hc)]
    exact ⟨hlow, hhigh, hall⟩

theorem isPair_iff (s : String) :
    isPair s = true ↔ ∃ y z, Figure y ∧ Figure z ∧ s = String.ofList [y, z] := by
  rw [isPair, isRow_iff isDigit_iff fun _ hc => hc.ascii]
  constructor
  · rintro ⟨hlow, hhigh, hall⟩
    have hlength : s.toList.length = 2 := by
      rw [String.length_toList]
      omega
    obtain ⟨y, z, hs⟩ := List.length_eq_two.1 hlength
    rw [hs] at hall
    refine ⟨y, z, hall y (by simp), hall z (by simp), ?_⟩
    rw [← hs, String.ofList_toList]
  · rintro ⟨y, z, hy, hz, rfl⟩
    simp [hy, hz]

/-! ### Expiries -/

/-- The months of the year. -/
def monthNames : List String :=
  ["JANUARY", "FEBRUARY", "MARCH", "APRIL", "MAY", "JUNE", "JULY", "AUGUST", "SEPTEMBER",
    "OCTOBER", "NOVEMBER", "DECEMBER"]

/-- The first three letters of a month. -/
inductive Month : List Char → Prop
  | named (name : String) (hname : name ∈ monthNames) : Month (name.toList.take 3)

/-- The texts that name an expiry. -/
inductive Expiry : List Char → Prop
  | daily : Expiry ['D', 'F', 'B']
  | never : Expiry ['-']
  | month
      {m : List Char} {y z : Char}
      (hm : Month m) (hy : Figure y) (hz : Figure z) :
      Expiry (m ++ ['-', y, z])
  | date
      {d e y z : Char} {m : List Char}
      (hd : Figure d) (he : Figure e) (hm : Month m) (hy : Figure y) (hz : Figure z) :
      Expiry ([d, e, '-'] ++ m ++ ['-', y, z])

theorem months_eq : months = monthNames.map fun name => String.ofList (name.toList.take 3) := by
  decide

theorem mem_months_iff (s : String) :
    months.contains s = true ↔ Month s.toList := by
  rw [List.contains_iff_mem, months_eq, List.mem_map]
  constructor
  · rintro ⟨name, hname, rfl⟩
    rw [String.toList_ofList]
    exact .named name hname
  · intro h
    generalize hs : s.toList = m at h
    obtain ⟨name, hname⟩ := h
    exact ⟨name, hname, by rw [← hs, String.ofList_toList]⟩

theorem Month.no_hyphen {m : List Char} (h : Month m) : '-' ∉ m := by
  have hall : ∀ name ∈ monthNames, '-' ∉ name.toList.take 3 := by decide
  obtain ⟨name, hname⟩ := h
  exact hall name hname

theorem Figure.ne_hyphen {c : Char} (h : Figure c) : '-' ≠ c := by
  rintro rfl
  exact absurd h.1 (by decide)

/-- The parts of a text make it up again. -/
theorem toList_eq_of_betweenHyphens {s : String} {parts : List String}
    (h : betweenHyphens s = parts) :
    s.toList = List.intercalate ['-'] (parts.map String.toList) := by
  have hparts : (betweenHyphens s).map String.toList
      = Text.between (fun c => c == '-') s.toList := by
    rw [betweenHyphens, List.map_map]
    exact List.map_id'' (fun _ => String.toList_ofList) _
  rw [← h, hparts, Text.intercalate_between fun c hc => eq_of_beq hc]

/-- Parts without hyphens are those of the text that they make up. -/
theorem betweenHyphens_intercalate (p : List Char) (ps : List (List Char))
    (hps : ∀ q ∈ p :: ps, '-' ∉ q) :
    betweenHyphens (String.ofList (List.intercalate ['-'] (p :: ps)))
      = (p :: ps).map String.ofList := by
  have hfree : ∀ q ∈ p :: ps, ∀ c ∈ q, (c == '-') = false := by
    intro q hq c hc
    rw [beq_eq_false_iff_ne]
    rintro rfl
    exact hps q hq hc
  rw [betweenHyphens, String.toList_ofList, Text.between_intercalate (by decide) p ps hfree]

/-- A month and a year, or a day before them, are an expiry. -/
theorem isExpiry_of_parts
    {s : String} {m : List Char} {y z : Char} (hm : Month m) (hy : Figure y) (hz : Figure z)
    (h : betweenHyphens s = [String.ofList m, String.ofList [y, z]]
      ∨ ∃ d e, Figure d ∧ Figure e
        ∧ betweenHyphens s = [String.ofList [d, e], String.ofList m, String.ofList [y, z]]) :
    isExpiry s = true := by
  have hmonth : months.contains (String.ofList m) = true := by
    rwa [mem_months_iff, String.toList_ofList]
  have hpair {y z : Char} (hy : Figure y) (hz : Figure z) :
      isPair (String.ofList [y, z]) = true :=
    (isPair_iff _).2 ⟨y, z, hy, hz, rfl⟩
  rw [isExpiry, Bool.or_eq_true]
  right
  obtain h | ⟨d, e, hd, he, h⟩ := h
  · rw [h]
    simp only [hmonth, hpair hy hz, Bool.and_true]
  · rw [h]
    simp only [hmonth, hpair hd he, hpair hy hz, Bool.and_true]

/-- The texts that are expiries are those of the four shapes. -/
theorem isExpiry_iff (s : String) :
    isExpiry s = true ↔ Expiry s.toList := by
  constructor
  · intro h
    simp only [isExpiry, Bool.or_eq_true, beq_iff_eq] at h
    obtain (rfl | rfl) | h := h
    · exact .daily
    · exact .never
    · split at h
      · rename_i month year hparts
        rw [Bool.and_eq_true, mem_months_iff, isPair_iff] at h
        obtain ⟨hm, y, z, hy, hz, rfl⟩ := h
        rw [toList_eq_of_betweenHyphens hparts]
        simpa using Expiry.month hm hy hz
      · rename_i day month year hparts
        rw [Bool.and_eq_true, Bool.and_eq_true, mem_months_iff, isPair_iff, isPair_iff] at h
        obtain ⟨⟨⟨d, e, hd, he, rfl⟩, hm⟩, y, z, hy, hz, rfl⟩ := h
        rw [toList_eq_of_betweenHyphens hparts]
        simpa using Expiry.date hd he hm hy hz
      · cases h
  · intro h
    have hs : s = String.ofList s.toList := String.ofList_toList.symm
    generalize s.toList = cs at h hs
    subst hs
    cases h with
    | daily => decide
    | never => decide
    | @month m y z hm hy hz =>
        refine isExpiry_of_parts hm hy hz (.inl ?_)
        exact betweenHyphens_intercalate m [[y, z]]
          (by simp [hm.no_hyphen, hy.ne_hyphen, hz.ne_hyphen])
    | @date d e y z m hd he hm hy hz =>
        refine isExpiry_of_parts hm hy hz (.inr ⟨d, e, hd, he, ?_⟩)
        exact betweenHyphens_intercalate [d, e] [m, [y, z]]
          (by simp [hd.ne_hyphen, he.ne_hyphen, hm.no_hyphen, hy.ne_hyphen, hz.ne_hyphen])

/-- Each form takes the texts of its alphabet and length, and an expiry those of its shapes. -/
theorem forms_exact (s : String) :
    (isCurrencyCode s = true ↔ s.length = 3 ∧ ∀ c ∈ s.toList, Capital c)
      ∧ (isEpic s = true ↔ 6 ≤ s.length ∧ s.length ≤ 30
        ∧ ∀ c ∈ s.toList, Alphanumeric c ∨ c = '.' ∨ c = '_')
      ∧ (isDealReference s = true ↔ 1 ≤ s.length ∧ s.length ≤ 30
        ∧ ∀ c ∈ s.toList, Alphanumeric c ∨ c = '.' ∨ c = '_' ∨ c = '-')
      ∧ (isQuoteId s = true ↔ 1 ≤ s.length ∧ ∀ c ∈ s.toList, Alphanumeric c)
      ∧ (isExpiry s = true ↔ Expiry s.toList) := by
  refine ⟨?currency, ?epic, ?reference, ?quote, isExpiry_iff s⟩
  case currency =>
    rw [isCurrencyCode, isRow_iff isCapital_iff fun _ hc => hc.ascii]
    constructor
    · rintro ⟨hlow, hhigh, hall⟩
      exact ⟨Nat.le_antisymm hhigh hlow, hall⟩
    · rintro ⟨hlength, hall⟩
      exact ⟨Nat.le_of_eq hlength.symm, Nat.le_of_eq hlength, hall⟩
  case epic =>
    have hkind : ∀ c, (isAlphanumeric c || c == '.' || c == '_') = true
        ↔ Alphanumeric c ∨ c = '.' ∨ c = '_' := by
      simp [or_assoc]
    exact isRow_iff hkind (fun c hc => ascii_of_sign (hc.imp_right (Or.imp_right .inl))) 6 30 s
  case reference =>
    have hkind : ∀ c, (isAlphanumeric c || c == '.' || c == '_' || c == '-') = true
        ↔ Alphanumeric c ∨ c = '.' ∨ c = '_' ∨ c = '-' := by
      simp [or_assoc]
    exact isRow_iff hkind (fun c hc => ascii_of_sign hc) 1 30 s
  case quote =>
    have hlength : 1 ≤ s.length ↔ s.toList ≠ [] := by
      rw [← String.length_toList]
      exact List.length_pos_iff
    rw [isQuoteId, Bool.and_eq_true, Bool.not_eq_true', List.isEmpty_eq_false_iff,
      List.all_eq_true, hlength]
    simp only [isAlphanumeric_iff]

end Format
end DealDesk
