import DealDesk.Number.Digit

/-!
# Numerals

A number as it is spelled: a sign, digits before and after a point, and an
exponent.  The reader follows the number grammar of JSON, in which a numeral has
no leading zeros, no plus sign in front and no empty row of digits.

**Results.** A well-formed numeral is read back from its text, whatever follows
it that cannot continue it.
-/

namespace DealDesk

/-- The mark in front of the digits of an exponent. -/
inductive ExponentSign where
  | none
  | plus
  | minus
deriving DecidableEq

/-- A power of ten. -/
structure Exponent where
  sign : ExponentSign
  digits : List Digit
deriving DecidableEq

/-- A number in parts; without digits after the point there is no point. -/
structure Numeral where
  negative : Bool
  whole : List Digit
  fraction : List Digit
  exponent : Option Exponent
deriving DecidableEq

namespace ExponentSign

def text : ExponentSign → List Char
  | .none => []
  | .plus => ['+']
  | .minus => ['-']

end ExponentSign

namespace Exponent

/-- The exponent that is written for an integer, with a sign in any case. -/
def ofInt : Int → Exponent
  | .ofNat n => ⟨.plus, Digit.ofNat n⟩
  | .negSucc n => ⟨.minus, Digit.ofNat (n + 1)⟩

/-- The integer that an exponent spells. -/
def toInt (e : Exponent) : Int :=
  match e.sign with
  | .minus => -(Digit.value e.digits : Int)
  | _ => Digit.value e.digits

def text (e : Exponent) : List Char :=
  'e' :: e.sign.text ++ Digit.text e.digits

end Exponent

namespace Numeral

/-- A whole number, spelled without point and exponent. -/
def ofInt (n : Int) : Numeral :=
  ⟨n < 0, Digit.ofNat n.natAbs, [], none⟩

/-- A positional numeral from digits, the last of them at the power `power`. -/
def positional (negative : Bool) (ds : List Digit) (power : Int) (keepsPoint : Bool) :
    Numeral :=
  let point : List Digit := if keepsPoint then [0] else []
  if 0 ≤ power then
    ⟨negative, ds ++ List.replicate power.toNat 0, point, none⟩
  else
    let places := (-power).toNat
    if places < ds.length then
      ⟨negative, ds.take (ds.length - places), ds.drop (ds.length - places), none⟩
    else
      ⟨negative, [0], List.replicate (places - ds.length) 0 ++ ds, none⟩

/-- One digit before the point and an exponent. -/
def scientific (negative : Bool) (ds : List Digit) (power : Int) : Numeral :=
  ⟨negative, ds.take 1, ds.drop 1, some (Exponent.ofInt (power + ds.length - 1))⟩

/-- The point and the digits after it; nothing if there are none. -/
def fractionText (ds : List Digit) : List Char :=
  if ds.isEmpty then [] else '.' :: Digit.text ds

/-- The exponent; nothing if there is none. -/
def exponentText : Option Exponent → List Char
  | none => []
  | some e => e.text

/-- The characters of a numeral. -/
def text (n : Numeral) : List Char :=
  (if n.negative then ['-'] else [])
    ++ (Digit.text n.whole ++ (fractionText n.fraction ++ exponentText n.exponent))

/-- A row of one digit at least. -/
def readDigits (cs : List Char) : Option (List Digit × List Char) :=
  match Digit.run cs with
  | ([], _) => none
  | p => some p

/-- Digits in front of the point: a lone zero, or a row that starts with none. -/
def readWhole (cs : List Char) : Option (List Digit × List Char) :=
  match Digit.run cs with
  | ([], _) => none
  | (d :: ds, r) => if d = 0 && !ds.isEmpty then none else some (d :: ds, r)

/-- The point and the digits after it, if there is a point. -/
def readFraction : List Char → Option (List Digit × List Char)
  | '.' :: r => readDigits r
  | cs => some ([], cs)

/-- The exponent, if its letter comes next. -/
def readExponent : List Char → Option (Option Exponent × List Char)
  | [] => some (none, [])
  | c :: r =>
      if c = 'e' ∨ c = 'E' then
        match r with
        | '+' :: r' => (readDigits r').map fun p => (some ⟨.plus, p.1⟩, p.2)
        | '-' :: r' => (readDigits r').map fun p => (some ⟨.minus, p.1⟩, p.2)
        | r' => (readDigits r').map fun p => (some ⟨.none, p.1⟩, p.2)
      else some (none, c :: r)

/-- A minus sign, if it comes next. -/
def readSign : List Char → Bool × List Char
  | '-' :: r => (true, r)
  | cs => (false, cs)

/-- A numeral at the front of a text, and what follows it. -/
def read (cs : List Char) : Option (Numeral × List Char) := do
  let (negative, r) := readSign cs
  let (whole, r) ← readWhole r
  let (fraction, r) ← readFraction r
  let (exponent, r) ← readExponent r
  some (⟨negative, whole, fraction, exponent⟩, r)

/-- The rows of digits are as the grammar wants them. -/
def WellFormed (n : Numeral) : Prop :=
  n.whole ≠ [] ∧ (n.whole.head? = some 0 → n.whole.length = 1)
    ∧ ∀ e, n.exponent = some e → e.digits ≠ []

/-- The text cannot continue a numeral. -/
def Stops (r : List Char) : Prop :=
  ∀ c r', r = c :: r' →
    Digit.ofChar? c = none ∧ c ≠ '.' ∧ c ≠ 'e' ∧ c ≠ 'E'

theorem readWhole_text
    {ds : List Digit} {r : List Char} (hn : ds ≠ []) (hz : ds.head? = some 0 → ds.length = 1)
    (h : ∀ c r', r = c :: r' → Digit.ofChar? c = none) :
    readWhole (Digit.text ds ++ r) = some (ds, r) := by
  unfold readWhole
  rw [Digit.run_text_append ds h]
  cases ds with
  | nil => exact absurd rfl hn
  | cons d ds =>
      cases ds with
      | nil => simp
      | cons e es =>
          by_cases hd : d = 0
          · subst hd
            simp at hz
          · simp [hd]

theorem readDigits_text
    {ds : List Digit} {r : List Char} (hn : ds ≠ [])
    (h : ∀ c r', r = c :: r' → Digit.ofChar? c = none) :
    readDigits (Digit.text ds ++ r) = some (ds, r) := by
  unfold readDigits
  rw [Digit.run_text_append ds h]
  cases ds with
  | nil => exact absurd rfl hn
  | cons d ds => rfl

theorem readSign_text
    {negative : Bool} {ds : List Digit} (hn : ds ≠ []) (r : List Char) :
    readSign ((if negative then ['-'] else []) ++ (Digit.text ds ++ r))
      = (negative, Digit.text ds ++ r) := by
  cases negative with
  | true => rfl
  | false =>
      cases ds with
      | nil => exact absurd rfl hn
      | cons d ds =>
          have hd : d.toChar ≠ '-' := Digit.toChar_ne rfl d
          simp only [Digit.text, List.map_cons, List.cons_append, Bool.false_eq_true, if_false,
            List.nil_append]
          unfold readSign
          split
          · rename_i h
            exact absurd (List.cons.inj h).1 hd
          · rfl

theorem readExponent_text
    {e : Option Exponent} {r : List Char} (he : ∀ x, e = some x → x.digits ≠ [])
    (hr : Stops r) :
    readExponent (exponentText e ++ r) = some (e, r) := by
  have hd : ∀ c r', r = c :: r' → Digit.ofChar? c = none := fun c r' h => (hr c r' h).1
  cases e with
  | none =>
      cases r with
      | nil => rfl
      | cons c r' =>
          obtain ⟨-, -, h1, h2⟩ := hr c r' rfl
          simp [exponentText, readExponent, h1, h2]
  | some x =>
      obtain ⟨sign, ds⟩ := x
      have hn : ds ≠ [] := he _ rfl
      have hds := readDigits_text hn hd
      cases sign with
      | plus => simp [exponentText, Exponent.text, ExponentSign.text, readExponent, hds]
      | minus => simp [exponentText, Exponent.text, ExponentSign.text, readExponent, hds]
      | none =>
          cases ds with
          | nil => exact absurd rfl hn
          | cons d ds =>
              have hp : d.toChar ≠ '+' := Digit.toChar_ne rfl d
              have hm : d.toChar ≠ '-' := Digit.toChar_ne rfl d
              simp only [exponentText, Exponent.text, ExponentSign.text, List.nil_append,
                List.cons_append, readExponent, true_or, if_true]
              simp only [Digit.text, List.map_cons, List.cons_append] at hds ⊢
              split
              · rename_i h
                exact absurd (List.cons.inj h).1 hp
              · rename_i h
                exact absurd (List.cons.inj h).1 hm
              · rw [hds]
                rfl

/-- What follows the digits before the point is not a digit. -/
theorem not_digit_of_exponent
    {e : Option Exponent} {r : List Char} (hr : Stops r) :
    ∀ c r', exponentText e ++ r = c :: r' →
      Digit.ofChar? c = none ∧ c ≠ '.' := by
  intro c r' h
  cases e with
  | none => exact ⟨(hr c r' h).1, (hr c r' h).2.1⟩
  | some x =>
      have hc : 'e' = c := (List.cons.inj h).1
      subst hc
      decide

theorem readFraction_text
    {ds : List Digit} {r : List Char}
    (h : ∀ c r', r = c :: r' → Digit.ofChar? c = none ∧ c ≠ '.') :
    readFraction (fractionText ds ++ r) = some (ds, r) := by
  cases ds with
  | nil =>
      cases r with
      | nil => rfl
      | cons c r' =>
          have hc := (h c r' rfl).2
          simp only [fractionText, List.isEmpty_nil, if_true, List.nil_append]
          unfold readFraction
          split
          · rename_i he
            exact absurd (List.cons.inj he).1 hc
          · rfl
  | cons d ds =>
      exact readDigits_text (List.cons_ne_nil _ _) fun c r' he => (h c r' he).1

/-- A well-formed numeral is read back from its text. -/
theorem read_text_append
    {n : Numeral} {r : List Char} (hn : n.WellFormed) (hr : Stops r) :
    read (n.text ++ r) = some (n, r) := by
  obtain ⟨h1, h2, h3⟩ := hn
  have he := not_digit_of_exponent (e := n.exponent) hr
  have hf : ∀ c r', fractionText n.fraction ++ (exponentText n.exponent ++ r) = c :: r' →
      Digit.ofChar? c = none := by
    intro c r' h
    cases hfr : n.fraction with
    | nil =>
        rw [hfr] at h
        exact (he c r' h).1
    | cons d ds =>
        rw [hfr] at h
        have hc : '.' = c := (List.cons.inj h).1
        subst hc
        decide
  simp only [read, text, List.append_assoc]
  rw [readSign_text h1]
  simp [readWhole_text h1 h2 hf, readFraction_text he, readExponent_text h3 hr]

end Numeral
end DealDesk
