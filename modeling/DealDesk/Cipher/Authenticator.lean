import DealDesk.Cipher.Word

/-!
# The Poly1305 authenticator

A tag of 16 bytes for a message, under a key of 32 bytes that is used once: the
pieces of the message are the coefficients of a polynomial modulo a prime just
above the numbers of 17 bytes.

**Results.** A tag has 16 bytes.
-/

namespace DealDesk
namespace Cipher

/-- The prime `2 ^ 130 - 5`. -/
def tagPrime : Nat := Nat.pow 2 130 - 5

/-- The bits of the first half of a key that count. -/
def clamp : Nat := 0x0ffffffc0ffffffc0ffffffc0fffffff

/-- A piece of a message with a one after its last byte. -/
def coefficient (piece : Bytes) : Nat :=
  ofLittle piece + Nat.pow 256 piece.length

/-- The polynomial of a message at a point. -/
def evaluate (point : Nat) (message : Bytes) : Nat :=
  (pieces 15 message).foldl (fun sum p => (sum + coefficient p) * point % tagPrime) 0

/-- The tag of a message. -/
def tag (key message : Bytes) : Bytes :=
  let point := ofLittle (key.take 16) &&& clamp
  little 16 (evaluate point message + ofLittle (key.drop 16))

@[simp] theorem length_tag (key message : Bytes) :
    (tag key message).length = 16 := by
  simp [tag]

end Cipher
end DealDesk
