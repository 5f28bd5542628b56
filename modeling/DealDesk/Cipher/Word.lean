/-!
# Words and bytes

Numbers as rows of bytes, the lowest byte first, and the division of a row into
pieces of one length.

**Results.** A number stands in as many bytes as its row has.
-/

namespace DealDesk
namespace Cipher

theorem sixteen_ne_zero : (16 : Nat) ≠ 0 := by
  decide

/-- Places among sixteen have numbers. -/
instance neZeroSixteen : @NeZero Nat Zero.ofOfNat0 16 := ⟨sixteen_ne_zero⟩

/-- Sixteen words with a word in one of their places. -/
def place {α : Type} (g : Vector α 16) (i : Fin 16) (w : α) : Vector α 16 :=
  g.set i w

/-- A row of bytes. -/
abbrev Bytes := List UInt8

/-- The number of a row of bytes, the lowest byte first. -/
def ofLittle : Bytes → Nat
  | [] => 0
  | b :: r => b.toNat + 256 * ofLittle r

/-- A number in a row of so many bytes, the lowest byte first. -/
def little : Nat → Nat → Bytes
  | 0, _ => []
  | k + 1, n => UInt8.ofNat n :: little k (n / 256)

@[simp] theorem length_little (k n : Nat) :
    (little k n).length = k := by
  induction k generalizing n with
  | zero => rfl
  | succ k ih => simp [little, ih]

/-- The pieces of a row, each of `k + 1` items but the last one, which may be shorter. -/
def pieces {α : Type} (k : Nat) (l : List α) : List (List α) :=
  if h : l.length ≤ k + 1 then (if l.isEmpty then [] else [l])
  else l.take (k + 1) :: pieces k (l.drop (k + 1))
termination_by l.length
decreasing_by
  simp only [List.length_drop]
  omega

/-- The words of 32 bits in a row of bytes. -/
def words32 (bs : Bytes) : List UInt32 :=
  (pieces 3 bs).map fun p => UInt32.ofNat (ofLittle p)

/-- The words of 64 bits in a row of bytes. -/
def words64 (bs : Bytes) : List UInt64 :=
  (pieces 7 bs).map fun p => UInt64.ofNat (ofLittle p)

/-- A word of 32 bits turned left. -/
@[inline] def rotate32 (w : UInt32) (n : UInt32) : UInt32 :=
  (w <<< n) ||| (w >>> (32 - n))

/-- A word of 64 bits turned right. -/
@[inline] def rotate64 (w : UInt64) (n : UInt64) : UInt64 :=
  (w >>> n) ||| (w <<< (64 - n))

end Cipher
end DealDesk
