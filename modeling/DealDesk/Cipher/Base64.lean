import DealDesk.Cipher.Word
import DealDesk.Number.Digit

/-!
# Bytes in base 64

Three bytes are written as four symbols, a last group of one or two bytes with
padding behind its symbols.  Only the canonical spelling is read: the padding has
to be there and the bits that stand for nothing have to be zero.

**Results.** Every value below 64 has a symbol, and a byte with a value is the
symbol of that value.
-/

namespace DealDesk
namespace Cipher
namespace Base64

/-- The 64 symbols: capitals, small letters, digits, `+` and `/`. -/
def symbol (v : Nat) : UInt8 :=
  UInt8.ofNat <|
    if v < 26 then 65 + v
    else if v < 52 then 71 + v
    else if v < 62 then v - 4
    else if v = 62 then 43
    else 47

/-- The value of a symbol. -/
def value? (b : UInt8) : Option Nat :=
  let n := b.toNat
  if 65 ≤ n ∧ n ≤ 90 then some (n - 65)
  else if 97 ≤ n ∧ n ≤ 122 then some (n - 71)
  else if 48 ≤ n ∧ n ≤ 57 then some (n + 4)
  else if n = 43 then some 62
  else if n = 47 then some 63
  else none

/-- The byte that pads the last group. -/
def pad : UInt8 := 61

/-- Why bytes are not a spelling in base 64. -/
inductive Fault where
  | invalidSymbol (byte : UInt8) (offset : Nat)
  /-- The last symbol has bits that stand for nothing. -/
  | invalidLastSymbol (byte : UInt8) (offset : Nat)
  | invalidLength (length : Nat)
  | invalidPadding
deriving DecidableEq

namespace Fault

/-- A byte and where it stands. -/
def place (b : UInt8) (offset : Nat) : String :=
  String.ofList (natText b.toNat) ++ ", offset " ++ String.ofList (natText offset) ++ "."

def message : Fault → String
  | .invalidSymbol b n => "Invalid symbol " ++ place b n
  | .invalidLastSymbol b n => "Invalid last symbol " ++ place b n
  | .invalidLength n => "Invalid input length: " ++ String.ofList (natText n)
  | .invalidPadding => "Invalid padding"

end Fault

/-- The symbols of bytes. -/
def encode : Bytes → Bytes
  | [] => []
  | [a] =>
      [symbol (a.toNat / 4), symbol (a.toNat % 4 * 16), pad, pad]
  | [a, b] =>
      [symbol (a.toNat / 4), symbol (a.toNat % 4 * 16 + b.toNat / 16),
        symbol (b.toNat % 16 * 4), pad]
  | a :: b :: c :: r =>
      symbol (a.toNat / 4) :: symbol (a.toNat % 4 * 16 + b.toNat / 16)
        :: symbol (b.toNat % 16 * 4 + c.toNat / 64) :: symbol (c.toNat % 64) :: encode r

/-- The symbols of bytes as a text. -/
def text (bs : Bytes) : String :=
  String.ofList ((encode bs).map fun b => Char.ofNat b.toNat)

/-- The value of the symbol at an offset. -/
def value (b : UInt8) (offset : Nat) : Except Fault Nat :=
  match value? b with
  | some v => .ok v
  | none => .error (.invalidSymbol b offset)

/-- The three bytes of four values. -/
def triple (a b c d : Nat) : Bytes :=
  [UInt8.ofNat (a * 4 + b / 16), UInt8.ofNat (b % 16 * 16 + c / 4),
    UInt8.ofNat (c % 4 * 64 + d)]

/-- The values in the last group and the number of pads behind them. -/
def lastValues (offset : Nat) : Nat → Bytes → Except Fault (List Nat × Nat)
  | _, [] => .ok ([], 0)
  | i, b :: r =>
      if b = pad then
        if i < 2 then .error (.invalidSymbol b (offset + i))
        else if r.all (· = pad) then .ok ([], r.length + 1)
        else .error (.invalidSymbol b (offset + i))
      else
        match value b (offset + i) with
        | .error e => .error e
        | .ok v =>
            match lastValues offset (i + 1) r with
            | .error e => .error e
            | .ok (vs, pads) => .ok (v :: vs, pads)

/-- The bytes of the last group, which has up to four symbols and pads. -/
def lastGroup (offset : Nat) (group : Bytes) : Except Fault Bytes :=
  match lastValues offset 0 group with
  | .error e => .error e
  | .ok (vs, pads) =>
      if vs.length < 2 ∧ group ≠ [] then .error (.invalidLength (offset + vs.length))
      else if (vs.length + pads) % 4 ≠ 0 then .error .invalidPadding
      else
        match vs with
        | [a, b] =>
            if b % 16 = 0 then .ok [UInt8.ofNat (a * 4 + b / 16)]
            else .error (.invalidLastSymbol (symbol b) (offset + 1))
        | [a, b, c] =>
            if c % 4 = 0 then
              .ok [UInt8.ofNat (a * 4 + b / 16), UInt8.ofNat (b % 16 * 16 + c / 4)]
            else .error (.invalidLastSymbol (symbol c) (offset + 2))
        | [a, b, c, d] => .ok (triple a b c d)
        | _ => .ok []

/-- The bytes of a full group of four symbols. -/
def fullGroup (offset : Nat) (a b c d : UInt8) : Except Fault Bytes := do
  let w ← value a offset
  let x ← value b (offset + 1)
  let y ← value c (offset + 2)
  let z ← value d (offset + 3)
  .ok (triple w x y z)

/-- The bytes of all groups, the last of which may be padded. -/
def groups (offset : Nat) : Bytes → Except Fault Bytes
  | a :: b :: c :: d :: e :: r =>
      match fullGroup offset a b c d with
      | .error f => .error f
      | .ok bs => (groups (offset + 4) (e :: r)).map (bs ++ ·)
  | group => lastGroup offset group

/-- A single byte behind full groups that can be no symbol is reported before all else. -/
def strayEnd (bs : Bytes) : Option Fault :=
  match bs.getLast? with
  | none => none
  | some b =>
      if bs.length % 4 = 1 ∧ b ≠ pad ∧ value? b = none then
        some (.invalidSymbol b (bs.length - 1))
      else none

/-- The bytes that symbols stand for. -/
def decode (bs : Bytes) : Except Fault Bytes :=
  match strayEnd bs with
  | some f => .error f
  | none => groups 0 bs

theorem value?_symbol : ∀ v < 64, value? (symbol v) = some v := by
  decide

theorem all_value? :
    ∀ n : Fin 256, (value? (UInt8.ofNat n.val)).all
      (fun v => v < 64 && symbol v == UInt8.ofNat n.val) = true := by
  decide +kernel

theorem symbol_of_value? {b : UInt8} {v : Nat} (h : value? b = some v) :
    v < 64 ∧ symbol v = b := by
  have := all_value? ⟨b.toNat, b.toNat_lt⟩
  simpa [h] using this

end Base64
end Cipher
end DealDesk
