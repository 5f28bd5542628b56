import DealDesk.Number.Reading
import DealDesk.Number.Real

/-!
# Numbers as numerals

The numerals that stand for numbers follow the number grammar: whole numbers,
and doubles under any layout.  For a double this needs that the search for its
shortest decimal ends before its last grid, which is found by comparing powers
of ten with powers of two.

**Results.** `wellFormed_ofInt` and `wellFormed_spell`: whole numbers and doubles
are spelled by well-formed numerals.  `ofNumeral?_ofInt`: a whole number that fits
64 bits is denoted by its numeral.
-/

namespace DealDesk

namespace Digit

/-- The first digit of a positive number is not zero. -/
theorem head?_spell_ne_zero
    {fuel n : Nat} (hn : 0 < n) (h : n < fuel) (acc : List Digit) :
    (spell fuel n acc).head? ≠ some 0 := by
  induction fuel generalizing n acc with
  | zero => omega
  | succ fuel ih =>
      unfold spell
      split
      · rename_i hlt
        intro hzero
        have hval := congrArg Fin.val (Option.some.inj hzero)
        rw [Fin.val_ofNat, Nat.mod_eq_of_lt hlt] at hval
        simp at hval
        omega
      · exact ih (by omega) (by omega) _

theorem head?_ofNat_ne_zero
    {n : Nat} (hn : 0 < n) :
    (ofNat n).head? ≠ some 0 :=
  head?_spell_ne_zero hn (Nat.lt_succ_self n) []

theorem length_spell_le
    {fuel n k : Nat} (hk : 0 < k) (h : n < Nat.pow 10 k) (acc : List Digit) :
    (spell fuel n acc).length ≤ k + acc.length := by
  induction fuel generalizing n k acc with
  | zero =>
      simp only [spell]
      omega
  | succ fuel ih =>
      unfold spell
      split
      · simp only [List.length_cons]
        omega
      · obtain ⟨j, rfl⟩ : ∃ j, k = j + 1 := ⟨k - 1, by omega⟩
        have hj : 0 < j := by
          rcases Nat.eq_zero_or_pos j with rfl | hj
          · change n < 10 at h
            omega
          · exact hj
        have hpow : Nat.pow 10 (j + 1) = 10 * Nat.pow 10 j := Nat.mul_comm _ _
        have hdiv : n / 10 < Nat.pow 10 j := by
          rw [hpow] at h
          omega
        have := ih hj hdiv (Fin.ofNat 10 n :: acc)
        simp only [List.length_cons] at this
        omega

theorem length_ofNat_le
    {n k : Nat} (hk : 0 < k) (h : n < Nat.pow 10 k) :
    (ofNat n).length ≤ k := by
  exact @length_spell_le (n + 1) n k hk h []

theorem value_replicate_append
    (k : Nat) (ds : List Digit) :
    value (List.replicate k 0 ++ ds) = value ds := by
  induction k with
  | zero => rfl
  | succ k ih => simpa [value, List.replicate_succ, valueFrom] using ih

/-- A row of digits goes on from one number, and no other row of its length gives the same. -/
theorem valueFrom_inj
    {as bs : List Digit} (hlength : as.length = bs.length) {m n : Nat}
    (h : valueFrom m as = valueFrom n bs) :
    m = n ∧ as = bs := by
  induction as generalizing bs m n with
  | nil =>
      rw [List.length_nil, eq_comm, List.length_eq_zero_iff] at hlength
      subst hlength
      exact ⟨h, rfl⟩
  | cons a as ih =>
      cases bs with
      | nil => cases hlength
      | cons b bs =>
          obtain ⟨hhead, htail⟩ := ih (Nat.succ.inj hlength) h
          have ha : a.val < 10 := a.isLt
          have hb : b.val < 10 := b.isLt
          have hdigit : a = b := Fin.ext (by omega)
          exact ⟨by omega, by rw [hdigit, htail]⟩

theorem value_inj
    {as bs : List Digit} (hlength : as.length = bs.length) (h : value as = value bs) :
    as = bs :=
  (valueFrom_inj hlength h).2

theorem valueFrom_lt (n : Nat) (ds : List Digit) :
    valueFrom n ds < (n + 1) * Nat.pow 10 ds.length := by
  induction ds generalizing n with
  | nil => exact Nat.lt_of_lt_of_eq (Nat.lt_succ_self n) (Nat.mul_one (n + 1)).symm
  | cons d ds ih =>
      have hd : d.val < 10 := d.isLt
      have hstep : 10 * n + d.val + 1 ≤ (n + 1) * 10 := by omega
      calc valueFrom (10 * n + d.val) ds
          < (10 * n + d.val + 1) * Nat.pow 10 ds.length := ih _
        _ ≤ (n + 1) * 10 * Nat.pow 10 ds.length := Nat.mul_le_mul_right _ hstep
        _ = (n + 1) * Nat.pow 10 (d :: ds).length := by
            rw [List.length_cons, Nat.mul_assoc, Nat.mul_comm 10]
            rfl

theorem value_lt (ds : List Digit) :
    value ds < Nat.pow 10 ds.length := by
  have h := valueFrom_lt 0 ds
  rwa [Nat.zero_add, Nat.one_mul] at h

theorem text_append (a b : List Digit) :
    text (a ++ b) = text a ++ text b :=
  List.map_append

theorem length_text (ds : List Digit) :
    (text ds).length = ds.length :=
  List.length_map ..

end Digit

namespace Numeral

instance : DecidablePred WellFormed := fun n =>
  decidable_of_iff
    (n.whole ≠ [] ∧ (n.whole.head? = some 0 → n.whole.length = 1)
      ∧ n.exponent.all (fun e => e.digits ≠ []) = true)
    (by cases h : n.exponent <;> simp [WellFormed, h])

/-- Digits that start with none but a lone zero make a well-formed numeral. -/
theorem wellFormed_of_head
    {n : Numeral} (hw : n.whole ≠ []) (hz : n.whole.head? ≠ some 0)
    (he : ∀ e, n.exponent = some e → e.digits ≠ []) :
    n.WellFormed :=
  ⟨hw, fun h => absurd h hz, he⟩

theorem digits_exponent_ne_nil (n : Int) :
    (Exponent.ofInt n).digits ≠ [] := by
  cases n with
  | ofNat n => exact Digit.ofNat_ne_nil n
  | negSucc n => exact Digit.ofNat_ne_nil (n + 1)

theorem wellFormed_ofInt (n : Int) :
    (ofInt n).WellFormed := by
  have hne : (ofInt n).whole ≠ [] := Digit.ofNat_ne_nil n.natAbs
  refine ⟨hne, ?_, fun e he => by cases he⟩
  intro hzero
  rcases Nat.eq_zero_or_pos n.natAbs with h | h
  · simp [ofInt, h, Digit.ofNat, Digit.spell]
  · exact absurd hzero (Digit.head?_ofNat_ne_zero h)

/-- A positional numeral is well formed if its digits do not start with a zero. -/
theorem wellFormed_positional
    {ds : List Digit} (hne : ds ≠ []) (hz : ds.head? ≠ some 0)
    (negative : Bool) (power : Int) (keepsPoint : Bool) :
    (positional negative ds power keepsPoint).WellFormed := by
  cases ds with
  | nil => exact absurd rfl hne
  | cons d ds =>
      simp only [positional]
      split
      · exact wellFormed_of_head (by simp) (by simpa using hz) (fun e he => by cases he)
      · split
        · rename_i hlt
          obtain ⟨k, hk⟩ : ∃ k, (d :: ds).length - (-power).toNat = k + 1 :=
            ⟨(d :: ds).length - (-power).toNat - 1, by omega⟩
          rw [hk]
          exact wellFormed_of_head (by simp) (by simpa using hz) (fun e he => by cases he)
        · exact ⟨by simp, by simp, fun e he => by cases he⟩

theorem wellFormed_positional_zero
    (negative keepsPoint : Bool) :
    (positional negative [0] 0 keepsPoint).WellFormed :=
  ⟨by simp [positional], by simp [positional], fun e he => by simp [positional] at he⟩

theorem wellFormed_scientific
    {ds : List Digit} (hne : ds ≠ []) (hz : ds.head? ≠ some 0)
    (negative : Bool) (power : Int) :
    (scientific negative ds power).WellFormed := by
  cases ds with
  | nil => exact absurd rfl hne
  | cons d ds =>
      refine wellFormed_of_head (by simp [scientific]) (by simpa [scientific] using hz) ?_
      intro e he
      rw [← Option.some.inj he]
      exact digits_exponent_ne_nil _

end Numeral

namespace Shortest

theorem holds_of_pick
    {s : Scaled} {tie : Tie} {n : Nat} (h : s.pick tie = some n) :
    s.holds n = true := by
  simp only [Scaled.pick] at h
  cases hb : s.holds (s.mid / s.unit) <;> cases ha : s.holds (s.mid / s.unit + 1)
  · simp [hb, ha] at h
  · simp only [hb, ha, Option.some.injEq] at h
    rw [← h]
    exact ha
  · simp only [hb, ha, Option.some.injEq] at h
    rw [← h]
    exact hb
  · simp only [hb, ha] at h
    have hor : n = s.mid / s.unit ∨ n = s.mid / s.unit + 1 := by
      revert h
      repeat' split
      all_goals
        intro h
        simp only [Option.some.injEq] at h
        omega
    rcases hor with rfl | rfl
    · exact hb
    · exact ha

theorem scale_pos (q power : Int) :
    0 < Nat.pow 2 q.toNat * Nat.pow 10 power.toNat :=
  Nat.mul_pos (Nat.pow_pos (by decide)) (Nat.pow_pos (by decide))

theorem not_holds_zero
    {b : Binary} (hm : 0 < b.m) (power : Int) :
    (b.scaled power).holds 0 = false := by
  have hlow : 0 < (b.scaled power).low := by
    refine Nat.mul_pos ?_ (scale_pos (b.q - 2) (-power))
    split <;> omega
  simp only [Scaled.holds, Nat.zero_mul]
  split
  · simp only [Bool.and_eq_false_iff, decide_eq_false_iff_not]
    omega
  · simp

/-- A grid that is not coarser than half the gap above the double has a point in the interval. -/
theorem exists_pick_of_unit_le
    {b : Binary} (hm : 0 < b.m) {power : Int} (tie : Tie)
    (h : (b.scaled power).unit ≤ 2 * (Nat.pow 2 (b.q - 2).toNat * Nat.pow 10 (-power).toNat)) :
    ∃ n, (b.scaled power).pick tie = some n := by
  have hup := scale_pos (b.q - 2) (-power)
  have hunit : 0 < (b.scaled power).unit := scale_pos (2 - b.q) power
  have hlow : (b.scaled power).low < (b.scaled power).mid := by
    refine (Nat.mul_lt_mul_right hup).2 ?_
    split <;> omega
  have hhigh : (b.scaled power).high
      = (b.scaled power).mid + 2 * (Nat.pow 2 (b.q - 2).toNat * Nat.pow 10 (-power).toNat) :=
    Nat.add_mul ..
  generalize b.scaled power = s at h hunit hlow hhigh ⊢
  generalize Nat.pow 2 (b.q - 2).toNat * Nat.pow 10 (-power).toNat = up at h hup hhigh
  have hdiv : s.mid / s.unit * s.unit + s.mid % s.unit = s.mid := by
    rw [Nat.mul_comm]
    exact Nat.div_add_mod ..
  have hmod : s.mid % s.unit < s.unit := Nat.mod_lt _ hunit
  have hnext : (s.mid / s.unit + 1) * s.unit = s.mid / s.unit * s.unit + s.unit :=
    Nat.succ_mul ..
  -- Either the double is on the grid, or the next point above it is within the gap.
  have hor : s.holds (s.mid / s.unit) = true ∨ s.holds (s.mid / s.unit + 1) = true := by
    rcases Nat.eq_zero_or_pos (s.mid % s.unit) with hr | hr
    · left
      simp only [Scaled.holds]
      split
      · simp only [Bool.and_eq_true, decide_eq_true_eq]
        omega
      · simp only [Bool.and_eq_true, decide_eq_true_eq]
        omega
    · right
      simp only [Scaled.holds, hnext]
      split
      · simp only [Bool.and_eq_true, decide_eq_true_eq]
        omega
      · simp only [Bool.and_eq_true, decide_eq_true_eq]
        omega
  simp only [Scaled.pick]
  cases hb : s.holds (s.mid / s.unit) <;> cases ha : s.holds (s.mid / s.unit + 1)
  · simp [hb, ha] at hor
  · exact ⟨_, rfl⟩
  · exact ⟨_, rfl⟩
  · simp only
    split
    · exact ⟨_, rfl⟩
    · split
      · exact ⟨_, rfl⟩
      · split <;> exact ⟨_, rfl⟩

theorem search_digits_pos
    {b : Binary} (hm : 0 < b.m) {tie : Tie} {fuel : Nat} {power : Int}
    (h : ∃ k : Nat, k < fuel ∧ ∃ n, (b.scaled (power - k)).pick tie = some n) :
    0 < (search b tie fuel power).digits := by
  induction fuel generalizing power with
  | zero =>
      obtain ⟨k, hk, -⟩ := h
      omega
  | succ fuel ih =>
      unfold search
      cases hp : (b.scaled power).pick tie with
      | some n =>
          rcases Nat.eq_zero_or_pos n with rfl | hn
          · have hz := holds_of_pick hp
            rw [not_holds_zero hm] at hz
            exact absurd hz (by simp)
          · exact hn
      | none =>
          apply ih
          obtain ⟨k, hk, n, hn⟩ := h
          cases k with
          | zero =>
              rw [Int.natCast_zero, Int.sub_zero, hp] at hn
              exact absurd hn (by simp)
          | succ k =>
              refine ⟨k, by omega, n, ?_⟩
              rw [← hn]
              congr 2
              omega

/-- A power of ten against a power of two, for the powers that doubles have. -/
theorem power_bound :
    ∀ i : Fin 2048,
      Nat.pow 2 (2 - ((i.val : Int) - 1074)).toNat
          * Nat.pow 10 (((52 + ((i.val : Int) - 1074)) * 30103 / 100000 - 22)).toNat
        ≤ 2 * (Nat.pow 2 (((i.val : Int) - 1074) - 2).toNat
          * Nat.pow 10 (-((52 + ((i.val : Int) - 1074)) * 30103 / 100000 - 22)).toNat) := by
  decide +kernel

/-- The last grid of the search is fine enough. -/
theorem unit_le_of_power_le
    {b : Binary} (hq : -1074 ≤ b.q) (hq' : b.q < 974) {power : Int}
    (hp : power ≤ (52 + b.q) * 30103 / 100000 - 22) :
    (b.scaled power).unit ≤ 2 * (Nat.pow 2 (b.q - 2).toNat * Nat.pow 10 (-power).toNat) := by
  have hbound := power_bound ⟨(b.q + 1074).toNat, by omega⟩
  have hi : (((b.q + 1074).toNat : Nat) : Int) - 1074 = b.q := by omega
  simp only [hi] at hbound
  refine Nat.le_trans (Nat.mul_le_mul_left _ ?_)
    (Nat.le_trans hbound (Nat.mul_le_mul_left 2 (Nat.mul_le_mul_left _ ?_)))
  · exact Nat.pow_le_pow_right (by decide) (by omega)
  · exact Nat.pow_le_pow_right (by decide) (by omega)

/-- The significand of a double has 53 bits, and its power of two is between bounds. -/
theorem ofBits_bounds (bits : Nat) :
    (Binary.ofBits bits).m < Nat.pow 2 53 ∧ -1074 ≤ (Binary.ofBits bits).q
      ∧ (Binary.ofBits bits).q < 974 := by
  have hpow52 : Nat.pow 2 52 = 4503599627370496 := rfl
  have hpow53 : Nat.pow 2 53 = 9007199254740992 := rfl
  simp only [Binary.ofBits, hpow52, hpow53]
  split
  · exact ⟨by simp only; omega, by simp, by simp⟩
  · exact ⟨by simp only; omega, by simp only; omega, by simp only; omega⟩

/-- The shortest decimal of a double that is not zero is not zero. -/
theorem shortest_digits_pos
    {bits : Nat} (hm : 0 < (Binary.ofBits bits).m) (tie : Tie) :
    0 < ((Binary.ofBits bits).shortest tie).digits := by
  obtain ⟨hm53, hq, hq'⟩ := ofBits_bounds bits
  generalize Binary.ofBits bits = b at hm hm53 hq hq'
  have hlog : b.m.log2 < 53 := (Nat.log2_lt (by omega)).2 hm53
  refine search_digits_pos hm
    ⟨24, by decide, exists_pick_of_unit_le hm tie (unit_le_of_power_le hq hq' ?_)⟩
  omega

end Shortest

/-- A double is spelled by a well-formed numeral under every layout. -/
theorem Layout.wellFormed_spell (l : Layout) (f : Float) :
    (l.spell f).WellFormed := by
  simp only [Layout.spell]
  split
  · exact Numeral.wellFormed_positional_zero _ _
  · rename_i hm
    have hpos := Shortest.shortest_digits_pos (Nat.pos_of_ne_zero hm) l.tie
    have hne := Digit.ofNat_ne_nil
      ((Shortest.Binary.ofBits (f.toBits.toNat % Nat.pow 2 63)).shortest l.tie).digits
    have hz := Digit.head?_ofNat_ne_zero hpos
    split
    · exact Numeral.wellFormed_positional hne hz _ _ _
    · exact Numeral.wellFormed_scientific hne hz _ _

/-- A whole number that fits 64 bits is denoted by its numeral. -/
theorem Number.ofNumeral?_ofInt
    {n : Int} (hlow : Int64.minValue.toInt ≤ n) (hhigh : n < UInt64.size) :
    Number.ofNumeral? (Numeral.ofInt n) = some (.whole n) := by
  have hmin : Int64.minValue.toInt = -9223372036854775808 := rfl
  have hsize : UInt64.size = 18446744073709551616 := rfl
  have hpow63 : Nat.pow 2 63 = 9223372036854775808 := rfl
  have hpow64 : Nat.pow 2 64 = 18446744073709551616 := rfl
  rw [hmin] at hlow
  rw [hsize] at hhigh
  simp only [Number.ofNumeral?, Numeral.ofInt, Digit.value_ofNat, List.isEmpty_nil,
    Option.isNone_none, Bool.true_and, hpow63, hpow64]
  rcases Int.lt_or_le n 0 with hn | hn
  · have hpos : 0 < n.natAbs := by omega
    have hle : n.natAbs ≤ 9223372036854775808 := by omega
    have habs : -(n.natAbs : Int) = n := by omega
    have hnegative : decide (n < 0) = true := decide_eq_true hn
    rw [hnegative, decide_eq_true hpos, decide_eq_true hle, habs]
    rfl
  · have hlt : n.natAbs < 18446744073709551616 := by omega
    have habs : (n.natAbs : Int) = n := by omega
    have hpositive : decide (n < 0) = false := decide_eq_false (by omega)
    rw [hpositive, decide_eq_true hlt, habs]
    rfl

end DealDesk
