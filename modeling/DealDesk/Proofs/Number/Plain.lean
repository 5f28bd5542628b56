import DealDesk.Number.Decimal.Reader
import DealDesk.Proofs.Number.Decimal
import DealDesk.Proofs.Number.Spelling

/-!
# Plain notation

A decimal is spelled with the digits of its mantissa, the last of them at the power of ten
that the scale says: zeros are put in front where there are fewer digits than places.  The
reader takes the digits one by one and stops early only where the mantissa or the places run
out of room.  What is spelled for a decimal has a mantissa and a scale that fit, so none of
these stops is reached.

**Results.** `isPlain_spell_normalized`: without trailing zeros a decimal is spelled in plain
notation.  `plainRat_spell`: what is spelled for a decimal has its value.  `ofPlain?_text`:
plain notation that fits a decimal is read digit for digit.  `ofText?_text`: a decimal is read
from its text as it is without trailing zeros.  `normalized_eq_iff`: two decimals are the same
without trailing zeros if and only if they have one value.
-/

namespace DealDesk

namespace Digit

theorem le_valueFrom (n : Nat) (ds : List Digit) :
    n ≤ valueFrom n ds := by
  induction ds generalizing n with
  | nil => exact Nat.le_refl n
  | cons d ds ih =>
      have hnext := ih (10 * n + d.val)
      rw [valueFrom]
      omega

/-- The last digit is what the number leaves when it is divided by ten. -/
theorem value_mod_ten
    {ds : List Digit} {d : Digit} (h : ds.getLast? = some d) :
    value ds % 10 = d.val := by
  obtain ⟨front, rfl⟩ := List.getLast?_eq_some_iff.1 h
  have hd : d.val < 10 := d.isLt
  rw [value, valueFrom_append]
  simp only [valueFrom]
  omega

end Digit

namespace Numeral

/-- The digits before and after the point in one row. -/
def row (n : Numeral) : List Digit :=
  n.whole ++ n.fraction

/--
Plain decimal notation: digits with at most one point, no zero at the end of the places, and
no sign in front of a zero.
-/
structure IsPlain (n : Numeral) : Prop where
  wellFormed : n.WellFormed
  exponent : n.exponent = none
  last : n.fraction.getLast? ≠ some 0
  sign : n.negative = true → Digit.value n.row ≠ 0

/-- The number that a numeral without exponent spells. -/
def plainRat (n : Numeral) : ℚ :=
  (if n.negative then -1 else 1) * (Digit.value n.row / 10 ^ n.fraction.length)

/-- Places are cut from the row of digits, or zeros are put in front of it. -/
theorem positional_cases (negative : Bool) (ds : List Digit) (places : Nat) :
    (∃ whole fraction, whole ++ fraction = ds ∧ fraction.length = places
        ∧ positional negative ds (-(places : Int)) false = ⟨negative, whole, fraction, none⟩)
      ∨ ∃ k, k + ds.length = places
        ∧ positional negative ds (-(places : Int)) false
          = ⟨negative, [0], List.replicate k 0 ++ ds, none⟩ := by
  rcases Nat.eq_zero_or_pos places with rfl | hpos
  · exact Or.inl ⟨ds, [], List.append_nil ds, rfl, by simp [positional]⟩
  · rcases Nat.lt_or_ge places ds.length with hlt | hge
    · refine Or.inl ⟨ds.take (ds.length - places), ds.drop (ds.length - places),
        List.take_append_drop _ ds, ?_, ?_⟩
      · rw [List.length_drop]
        omega
      · simp [positional, Nat.ne_of_gt hpos, hlt]
    · refine Or.inr ⟨places - ds.length, Nat.sub_add_cancel hge, ?_⟩
      simp [positional, Nat.ne_of_gt hpos, Nat.not_lt.2 hge]

section Positional

variable (negative : Bool) (ds : List Digit) (places : Nat)

theorem negative_positional :
    (positional negative ds (-(places : Int)) false).negative = negative := by
  rcases positional_cases negative ds places with ⟨_, _, -, -, h⟩ | ⟨_, -, h⟩
  · rw [h]
  · rw [h]

theorem exponent_positional :
    (positional negative ds (-(places : Int)) false).exponent = none := by
  rcases positional_cases negative ds places with ⟨_, _, -, -, h⟩ | ⟨_, -, h⟩
  · rw [h]
  · rw [h]

theorem length_fraction_positional :
    (positional negative ds (-(places : Int)) false).fraction.length = places := by
  rcases positional_cases negative ds places with ⟨_, _, -, hlength, h⟩ | ⟨_, hlength, h⟩
  · rw [h]
    exact hlength
  · rw [h, List.length_append, List.length_replicate]
    exact hlength

/-- Zeros in front make no difference to the number. -/
theorem value_row_positional :
    Digit.value (positional negative ds (-(places : Int)) false).row = Digit.value ds := by
  rcases positional_cases negative ds places with ⟨_, _, hds, -, h⟩ | ⟨k, -, h⟩
  · rw [h, row, hds]
  · rw [h, row]
    exact Digit.value_replicate_append (k + 1) ds

/-- The last place is the last digit of the row. -/
theorem getLast?_of_positional
    {d : Digit} (hne : ds ≠ [])
    (hlast : (positional negative ds (-(places : Int)) false).fraction.getLast? = some d) :
    ds.getLast? = some d := by
  rcases positional_cases negative ds places with ⟨whole, fraction, hds, -, h⟩ | ⟨k, -, h⟩
  · rw [h] at hlast
    rw [← hds, List.getLast?_append, hlast]
    rfl
  · have he := List.getLast?_eq_some_getLast hne
    rw [h, List.getLast?_append, he] at hlast
    exact he.trans hlast

end Positional

end Numeral

namespace Decimal

/-! ### Decimals of one value -/

theorem eq_of_parts
    {d e : Decimal} (hnegative : d.negative = e.negative) (hmantissa : d.mantissa = e.mantissa)
    (hscale : d.scale = e.scale) :
    d = e := by
  cases d
  cases e
  rw [mk.injEq]
  exact ⟨hnegative, hmantissa, hscale⟩

theorem abs_toRat (d : Decimal) :
    |d.toRat| = d.absRat := by
  have hnonneg : 0 ≤ d.absRat := by
    rw [absRat]
    positivity
  rw [toRat]
  split
  · rw [abs_neg, abs_of_nonneg hnonneg]
  · exact abs_of_nonneg hnonneg

/-- A normalized decimal has only the places that its size needs. -/
theorem scale_normalized_le_iff (d : Decimal) (k : Nat) :
    d.normalized.scale ≤ k ↔ ∃ n : Nat, d.absRat * 10 ^ k = n := by
  have hscale : (10 : ℚ) ^ d.scale ≠ 0 := by positivity
  have hnat : ∀ n : Nat, d.mantissa * 10 ^ k = n * 10 ^ d.scale ↔ d.absRat * 10 ^ k = n := by
    intro n
    rw [absRat, div_mul_eq_mul_div, div_eq_iff hscale]
    exact_mod_cast Iff.rfl
  calc d.normalized.scale ≤ k
      ↔ 10 ^ (d.scale - k) ∣ d.mantissa := strip_snd_le_iff d.scale d.mantissa k
    _ ↔ ∃ n : Nat, d.mantissa * 10 ^ k = n * 10 ^ d.scale :=
        (exists_mul_pow_eq_iff d.scale d.mantissa k).symm
    _ ↔ ∃ n : Nat, d.absRat * 10 ^ k = n := exists_congr hnat

/-- Only zero loses its mantissa with its trailing zeros. -/
theorem mantissa_normalized_eq_zero_iff (d : Decimal) :
    d.normalized.mantissa = 0 ↔ d.mantissa = 0 := by
  have hvalue : d.normalized.mantissa * 10 ^ (d.scale - d.normalized.scale) = d.mantissa :=
    strip_value d.scale d.mantissa
  rw [← hvalue, mul_eq_zero]
  exact ⟨Or.inl, fun h => h.resolve_right (by positivity)⟩

/-- A normalized zero has no sign. -/
theorem mantissa_ne_zero_of_negative
    {d : Decimal} (h : d.normalized.negative = true) :
    d.normalized.mantissa ≠ 0 := by
  rw [normalized, Bool.and_eq_true, decide_eq_true_iff] at h
  exact mt d.mantissa_normalized_eq_zero_iff.1 h.2

theorem negative_normalized_iff (d : Decimal) :
    d.normalized.negative = true ↔ d.toRat < 0 := by
  rw [← d.toRat_normalized, toRat]
  constructor
  · intro h
    have hpos : 0 < d.normalized.mantissa := Nat.pos_of_ne_zero (mantissa_ne_zero_of_negative h)
    rw [if_pos h, neg_lt_zero, absRat]
    positivity
  · intro hlt
    by_contra h
    rw [if_neg h, absRat] at hlt
    exact absurd hlt (not_lt.2 (by positivity))

/-- Two decimals are the same without trailing zeros if and only if they have one value. -/
theorem normalized_eq_iff (d e : Decimal) :
    d.normalized = e.normalized ↔ d.toRat = e.toRat := by
  constructor
  · intro h
    rw [← d.toRat_normalized, h, e.toRat_normalized]
  · intro h
    have habs : d.absRat = e.absRat := by rw [← abs_toRat, h, abs_toRat]
    have hscale : d.normalized.scale = e.normalized.scale := by
      refine eq_of_forall_ge_iff fun k => ?_
      rw [scale_normalized_le_iff, scale_normalized_le_iff, habs]
    have hmantissa : d.normalized.mantissa = e.normalized.mantissa := by
      have hnormalized : d.normalized.absRat = e.normalized.absRat := by
        rw [absRat_normalized, absRat_normalized, habs]
      rw [absRat, absRat, hscale, div_left_inj' (by positivity)] at hnormalized
      exact_mod_cast hnormalized
    have hnegative : d.normalized.negative = e.normalized.negative := by
      rw [Bool.eq_iff_iff, negative_normalized_iff, negative_normalized_iff, h]
    exact eq_of_parts hnegative hmantissa hscale

/-! ### Spelling -/

/-- Without trailing zeros a decimal is spelled in plain notation. -/
theorem isPlain_spell_normalized (d : Decimal) :
    d.normalized.spell.IsPlain where
  wellFormed := by
    rw [spell]
    rcases Nat.eq_zero_or_pos d.normalized.mantissa with hzero | hpos
    · have hmod : d.normalized.mantissa % 10 = 0 := by rw [hzero]
      have hscale : d.normalized.scale = 0 :=
        (strip_last d.scale d.mantissa).resolve_right (absurd hmod)
      rw [hzero, hscale]
      exact Numeral.wellFormed_positional_zero d.normalized.negative false
    · exact Numeral.wellFormed_positional (Digit.ofNat_ne_nil _) (Digit.head?_ofNat_ne_zero hpos)
        _ _ _
  exponent := Numeral.exponent_positional ..
  last := by
    intro hlast
    have hdigit := Numeral.getLast?_of_positional _ _ _ (Digit.ofNat_ne_nil _) hlast
    have hmod := Digit.value_mod_ten hdigit
    rw [Digit.value_ofNat] at hmod
    rcases strip_last d.scale d.mantissa with hscale | hne
    · -- without places there is no last one
      have hlength : d.normalized.spell.fraction.length = d.normalized.scale :=
        Numeral.length_fraction_positional ..
      rw [List.length_eq_zero_iff.1 (hlength.trans hscale)] at hlast
      cases hlast
    · exact hne hmod
  sign := by
    intro hsign
    rw [spell, Numeral.negative_positional] at hsign
    rw [spell, Numeral.value_row_positional, Digit.value_ofNat]
    exact mantissa_ne_zero_of_negative hsign

theorem plainRat_spell (d : Decimal) :
    d.spell.plainRat = d.toRat := by
  rw [Numeral.plainRat, spell, Numeral.negative_positional, Numeral.value_row_positional,
    Numeral.length_fraction_positional, Digit.value_ofNat, toRat, absRat]
  split
  · rw [neg_one_mul]
  · rw [one_mul]

/-! ### Reading -/

/-- A digit for which the mantissa and the places have room joins the mantissa. -/
theorem scan_digit
    (point seen bridged : Bool) {m s : Nat} {d : Digit} (hroom : 10 * m + d.val < Nat.pow 2 96)
    (hplaces : point = true → s < 28) (r : List Char) :
    scan point seen bridged m s (d.toChar :: r)
      = scan point true false (10 * m + d.val) (if point then s + 1 else s) r := by
  have hfull : ¬ (point && 28 ≤ s && !bridged) = true := by
    simp only [Bool.and_eq_true, decide_eq_true_eq]
    rintro ⟨⟨hpoint, hle⟩, -⟩
    exact absurd (hplaces hpoint) (Nat.not_lt.2 hle)
  rw [scan, Digit.ofChar?_toChar]
  simp only
  rw [if_neg hfull, if_pos hroom]

/-- A row of digits for which there is room joins the mantissa. -/
theorem scan_digits
    (point : Bool) {m s : Nat} {ds : List Digit} (hroom : Digit.valueFrom m ds < Nat.pow 2 96)
    (hplaces : point = true → s + ds.length ≤ 28) (r : List Char) :
    scan point true false m s (Digit.text ds ++ r)
      = scan point true false (Digit.valueFrom m ds) (if point then s + ds.length else s) r := by
  induction ds generalizing m s with
  | nil => cases point <;> rfl
  | cons d ds ih =>
      have hfirst : 10 * m + d.val < Nat.pow 2 96 :=
        Nat.lt_of_le_of_lt (Digit.le_valueFrom _ ds) hroom
      rw [List.length_cons] at hplaces ⊢
      have hplace : point = true → s < 28 := fun hpoint => by
        have := hplaces hpoint
        omega
      have hrest : point = true → (if point then s + 1 else s) + ds.length ≤ 28 := fun hpoint => by
        rw [if_pos hpoint]
        have := hplaces hpoint
        omega
      refine (scan_digit point true false hfirst hplace _).trans ((ih hroom hrest).trans ?_)
      cases point with
      | false => rfl
      | true => simp only [if_true, Nat.add_right_comm s 1, Nat.add_assoc, Digit.valueFrom]

/-- The digits of a numeral that fits a decimal are all read. -/
theorem scan_numeral
    {whole fraction : List Digit} (hne : whole ≠ [])
    (hroom : Digit.value (whole ++ fraction) < Nat.pow 2 96) (hplaces : fraction.length ≤ 28) :
    scan false false false 0 0 (Digit.text whole ++ Numeral.fractionText fraction)
      = some (Digit.value (whole ++ fraction), fraction.length) := by
  rw [Digit.value, Digit.valueFrom_append] at hroom ⊢
  have hwhole : Digit.valueFrom 0 whole < Nat.pow 2 96 :=
    Nat.lt_of_le_of_lt (Digit.le_valueFrom _ fraction) hroom
  cases whole with
  | nil => exact absurd rfl hne
  | cons d ds =>
      have hrest : Digit.valueFrom (10 * 0 + d.val) ds < Nat.pow 2 96 := hwhole
      have hfirst : 10 * 0 + d.val < Nat.pow 2 96 :=
        Nat.lt_of_le_of_lt (Digit.le_valueFrom _ ds) hrest
      have hfront (r : List Char) :
          scan false false false 0 0 (Digit.text (d :: ds) ++ r)
            = scan false true false (Digit.valueFrom 0 (d :: ds)) 0 r :=
        (scan_digit false false false hfirst (absurd · Bool.false_ne_true) _).trans
          (scan_digits false hrest (absurd · Bool.false_ne_true) r)
      rw [hfront]
      cases fraction with
      | nil => rfl
      | cons e es =>
          -- The point comes first, and after it the places.
          have hplaces' : 0 + (e :: es).length ≤ 28 := (Nat.zero_add _).trans_le hplaces
          have hback := scan_digits true hroom (fun _ => hplaces') []
          rwa [List.append_nil, if_pos rfl, Nat.zero_add] at hback

theorem splitSign_text
    {ds : List Digit} (hne : ds ≠ []) (negative : Bool) (r : List Char) :
    splitSign ((if negative then ['-'] else []) ++ (Digit.text ds ++ r))
      = (negative, Digit.text ds ++ r) := by
  cases negative with
  | true => rfl
  | false =>
      cases ds with
      | nil => exact absurd rfl hne
      | cons d ds =>
          have hminus : d.toChar ≠ '-' := Digit.toChar_ne rfl d
          have hplus : d.toChar ≠ '+' := Digit.toChar_ne rfl d
          simp only [Digit.text, List.map_cons, List.cons_append, Bool.false_eq_true, if_false,
            List.nil_append]
          unfold splitSign
          split
          · rename_i h
            exact absurd (List.cons.inj h).1 hminus
          · rename_i h
            exact absurd (List.cons.inj h).1 hplus
          · rfl

/-- Plain notation that fits a decimal is read digit for digit, and nothing is rounded. -/
theorem ofPlain?_text
    {n : Numeral} (hn : n.IsPlain) (hroom : Digit.value n.row < Nat.pow 2 96)
    (hplaces : n.fraction.length ≤ 28) :
    ofPlain? n.text = ofParts? n.negative (Digit.value n.row) n.fraction.length := by
  have hplaced : placed n.fraction.length = n.fraction.length :=
    Nat.mod_eq_of_lt (Nat.lt_succ_of_le hplaces)
  rw [Numeral.text, hn.exponent, Numeral.exponentText, List.append_nil, ofPlain?,
    splitSign_text hn.wellFormed.1]
  simp only
  rw [scan_numeral hn.wellFormed.1 hroom hplaces]
  simp only [Option.bind_eq_bind, Option.bind_some, hplaced]
  rfl

/-- A decimal is read from its text as it is without trailing zeros. -/
theorem ofText?_text (d : Decimal) :
    ofText? d.text = some d.normalized := by
  have hrow : Digit.value d.normalized.spell.row = d.normalized.mantissa := by
    rw [spell, Numeral.value_row_positional, Digit.value_ofNat]
  have hlength : d.normalized.spell.fraction.length = d.normalized.scale :=
    Numeral.length_fraction_positional ..
  have hnegative : d.normalized.spell.negative = d.normalized.negative :=
    Numeral.negative_positional ..
  have hread := ofPlain?_text d.isPlain_spell_normalized (hrow ▸ d.normalized.mantissa_lt)
    (hlength ▸ d.normalized.scale_le)
  rw [hrow, hlength, hnegative, ofParts?,
    dif_pos ⟨d.normalized.mantissa_lt, d.normalized.scale_le⟩] at hread
  have hsign : (d.normalized.negative && decide (d.normalized.mantissa ≠ 0))
      = d.normalized.negative := by
    cases h : d.normalized.negative with
    | false => rfl
    | true => simp [mantissa_ne_zero_of_negative h]
  rw [ofText?, text, String.toList_ofList, hread]
  simp only [hsign]
  rfl

end Decimal
end DealDesk
