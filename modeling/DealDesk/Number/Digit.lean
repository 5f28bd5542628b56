/-!
# Decimal digits

Digits, their characters, and the digits of a natural number.

**Results.** A digit is read back from its character; the digits of a number
have that number as their value, and there is at least one of them.  `natText_eq`: the text
of a number is the one that the standard library gives it.
-/

namespace DealDesk

/-- A decimal digit. -/
abbrev Digit := Fin 10

namespace Digit

theorem ten_ne_zero : (10 : Nat) ≠ 0 := by
  decide

/-- Digits are written as numbers. -/
instance neZeroTen : @NeZero Nat Zero.ofOfNat0 10 := ⟨ten_ne_zero⟩

/-- The character that shows the digit. -/
def toChar (d : Digit) : Char :=
  match d with
  | 0 => '0' | 1 => '1' | 2 => '2' | 3 => '3' | 4 => '4'
  | 5 => '5' | 6 => '6' | 7 => '7' | 8 => '8' | 9 => '9'

/-- The digit that a character shows, if it is one of the ten. -/
def ofChar? (c : Char) : Option Digit :=
  if '0' ≤ c ∧ c ≤ '9' then some (Fin.ofNat 10 (c.toNat - 48)) else none

@[simp] theorem ofChar?_toChar (d : Digit) :
    ofChar? d.toChar = some d := by
  revert d
  decide

theorem toChar_ne {c : Char} (h : ofChar? c = none) (d : Digit) :
    d.toChar ≠ c := by
  rintro rfl
  rw [ofChar?_toChar] at h
  exact absurd h (by simp)

theorem toChar_isDigit (d : Digit) :
    d.toChar.isDigit = true := by
  revert d
  decide

/-- The digits at the front of a text, and what follows them. -/
def run : List Char → List Digit × List Char
  | [] => ([], [])
  | c :: r =>
      match ofChar? c with
      | some d => (d :: (run r).1, (run r).2)
      | none => ([], c :: r)

/-- The characters of digits in a row. -/
def text (ds : List Digit) : List Char :=
  ds.map toChar

/-- Digits read from the left continue the number `n`. -/
def valueFrom (n : Nat) : List Digit → Nat
  | [] => n
  | d :: r => valueFrom (10 * n + d.val) r

/-- The number that digits spell. -/
def value (ds : List Digit) : Nat :=
  valueFrom 0 ds

/-- Digits of `n` in front of `acc`; `fuel` exceeds the number of digits. -/
def spell : Nat → Nat → List Digit → List Digit
  | 0, _, acc => acc
  | fuel + 1, n, acc =>
      if n < 10 then Fin.ofNat 10 n :: acc
      else spell fuel (n / 10) (Fin.ofNat 10 n :: acc)

/-- The digits of a number, without leading zeros; zero has one digit. -/
def ofNat (n : Nat) : List Digit :=
  spell (n + 1) n []

theorem run_text_append
    (ds : List Digit) {r : List Char}
    (hr : ∀ c r', r = c :: r' → ofChar? c = none) :
    run (text ds ++ r) = (ds, r) := by
  induction ds with
  | nil =>
      cases r with
      | nil => rfl
      | cons c r' => simp [text, run, hr c r' rfl]
  | cons d ds ih =>
      simp only [text, List.map_cons, List.cons_append] at ih ⊢
      simp [run, ih]

theorem valueFrom_append (n : Nat) (a b : List Digit) :
    valueFrom n (a ++ b) = valueFrom (valueFrom n a) b := by
  induction a generalizing n with
  | nil => rfl
  | cons d a ih => simp [valueFrom, ih]

theorem value_spell
    {fuel n : Nat} (acc : List Digit) (h : n < fuel) :
    value (spell fuel n acc) = valueFrom n acc := by
  induction fuel generalizing n acc with
  | zero => omega
  | succ fuel ih =>
      unfold spell
      split
      · rename_i hn
        simp [value, valueFrom, Nat.mod_eq_of_lt hn]
      · rw [ih _ (by omega)]
        simp [valueFrom]
        congr 1
        omega

@[simp] theorem value_ofNat (n : Nat) :
    value (ofNat n) = n := by
  simp [ofNat, value_spell [] (Nat.lt_succ_self n), valueFrom]

theorem spell_ne_nil (fuel n : Nat) (acc : List Digit) :
    spell (fuel + 1) n acc ≠ [] := by
  induction fuel generalizing n acc with
  | zero =>
      unfold spell
      split <;> simp [spell]
  | succ fuel ih =>
      unfold spell
      split
      · simp
      · exact ih _ _

theorem ofNat_ne_nil (n : Nat) : ofNat n ≠ [] :=
  spell_ne_nil n n []

theorem toChar_ofNat {n : Nat} (h : n < 10) :
    toChar (Fin.ofNat 10 n) = n.digitChar := by
  have hall : ∀ d : Fin 10, toChar (Fin.ofNat 10 d.val) = d.val.digitChar := by decide
  exact hall ⟨n, h⟩

/-- The digits are those that the standard library writes. -/
theorem text_spell
    {fuel n : Nat} (acc : List Digit) (h : n < fuel) :
    text (spell fuel n acc) = Nat.toDigits 10 n ++ text acc := by
  induction fuel generalizing n acc with
  | zero => omega
  | succ fuel ih =>
      rw [spell, Nat.toDigits_eq_if (by decide)]
      split
      · rename_i hn
        rw [text, List.map_cons, toChar_ofNat hn]
        rfl
      · have hlast : toChar (Fin.ofNat 10 n) = (n % 10).digitChar := by
          rw [← toChar_ofNat (Nat.mod_lt n (by decide))]
          exact congrArg toChar (Fin.ext (Nat.mod_mod n 10).symm)
        rw [ih _ (by omega), text, List.map_cons, hlast, List.append_assoc]
        rfl

end Digit

/-- The decimal text of a natural number. -/
def natText (n : Nat) : List Char :=
  Digit.text (Digit.ofNat n)

theorem natText_eq (n : Nat) :
    String.ofList (natText n) = toString n := by
  rw [natText, Digit.ofNat, Digit.text_spell [] (Nat.lt_succ_self n)]
  exact congrArg String.ofList (List.append_nil _)

/-- The decimal text of an integer, with a minus sign for a negative one. -/
def intText (n : Int) : List Char :=
  match n with
  | .ofNat n => natText n
  | .negSucc n => '-' :: natText (n + 1)

end DealDesk
