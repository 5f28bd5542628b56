import DealDesk.Cipher.Authenticator
import DealDesk.Cipher.ChaCha
import DealDesk.Text.Utf8

/-!
# Sealing with XChaCha20-Poly1305

A message is enciphered under a key of 32 bytes and a nonce of 24, and the tag of
what came out is put behind it.  Only data with the right tag is deciphered.

**Results.** What was sealed opens to the message; data opens exactly if it is at
least as long as a tag and ends in the tag of what is in front of it.
-/

namespace DealDesk
namespace Cipher

/-- A key of 32 bytes. -/
structure Key where
  bytes : Bytes
  length_bytes : bytes.length = 32
deriving DecidableEq

/-- A nonce of 24 bytes. -/
structure Nonce where
  bytes : Bytes
  length_bytes : bytes.length = 24
deriving DecidableEq

namespace Key

/-- A key of those bytes, if they are 32. -/
def ofBytes? (bs : Bytes) : Option Key :=
  if h : bs.length = 32 then some ⟨bs, h⟩ else none

@[simp] theorem ofBytes?_bytes (k : Key) : ofBytes? k.bytes = some k :=
  dif_pos k.length_bytes

end Key

namespace Nonce

/-- A nonce of those bytes, if they are 24. -/
def ofBytes? (bs : Bytes) : Option Nonce :=
  if h : bs.length = 24 then some ⟨bs, h⟩ else none

@[simp] theorem ofBytes?_bytes (n : Nonce) : ofBytes? n.bytes = some n :=
  dif_pos n.length_bytes

theorem ofBytes?_eq_some_iff {bs : Bytes} {n : Nonce} :
    ofBytes? bs = some n ↔ bs = n.bytes := by
  constructor
  · intro h
    by_cases hbs : bs.length = 24
    · rw [ofBytes?, dif_pos hbs] at h
      cases h
      rfl
    · rw [ofBytes?, dif_neg hbs] at h
      cases h
  · rintro rfl
    exact n.ofBytes?_bytes

end Nonce

/-- Zeros up to the next multiple of sixteen. -/
def padding (n : Nat) : Bytes :=
  List.replicate ((16 - n % 16) % 16) 0

/-- The key of the stream, made from the key and the first part of the nonce. -/
def streamKey (k : Key) (n : Nonce) : Bytes :=
  subkey k.bytes (n.bytes.take 16)

/-- The nonce of the stream: the last part of the nonce behind four zeros. -/
def streamNonce (n : Nonce) : Bytes :=
  [0, 0, 0, 0] ++ n.bytes.drop 16

/-- The tag of an enciphered message and of data that stands beside it in the open. -/
def jointTag (k : Key) (n : Nonce) (beside cipher : Bytes) : Bytes :=
  let once := (block (streamKey k n) (streamNonce n) 0).take 32
  tag once (beside ++ padding beside.length ++ cipher ++ padding cipher.length
    ++ little 8 beside.length ++ little 8 cipher.length)

/-- The tag of an enciphered message with nothing beside it. -/
def sealTag (k : Key) (n : Nonce) (cipher : Bytes) : Bytes :=
  jointTag k n [] cipher

/-- An enciphered message and its tag. -/
def enclose (k : Key) (n : Nonce) (message : Bytes) : Bytes :=
  let cipher := encipher (streamKey k n) (streamNonce n) 1 message
  cipher ++ sealTag k n cipher

/-- The message in sealed data, if the tag is right. -/
def disclose? (k : Key) (n : Nonce) (sealed : Bytes) : Option Bytes :=
  let cipher := sealed.take (sealed.length - 16)
  if 16 ≤ sealed.length ∧ sealed.drop (sealed.length - 16) = sealTag k n cipher then
    some (encipher (streamKey k n) (streamNonce n) 1 cipher)
  else none

@[simp] theorem length_sealTag (k : Key) (n : Nonce) (cipher : Bytes) :
    (sealTag k n cipher).length = 16 := by
  simp [sealTag, jointTag]

/-- What was sealed opens to the message. -/
theorem disclose?_enclose (k : Key) (n : Nonce) (message : Bytes) :
    disclose? k n (enclose k n message) = some message := by
  simp [disclose?, enclose, encipher_encipher]

/-- The published vector: a message as it is enciphered, and its tag with twelve bytes beside it. -/
example :
    let key : Key := ⟨(List.range 32).map fun i => UInt8.ofNat (0x80 + i), by decide⟩
    let nonce : Nonce := ⟨(List.range 24).map fun i => UInt8.ofNat (0x40 + i), by decide⟩
    let message := Text.bytes ("Ladies and Gentlemen of the class of '99: If I could offer you "
      ++ "only one tip for the future, sunscreen would be it.")
    let beside : Bytes :=
      [0x50, 0x51, 0x52, 0x53, 0xc0, 0xc1, 0xc2, 0xc3, 0xc4, 0xc5, 0xc6, 0xc7]
    let cipher : Bytes :=
      [0xbd, 0x6d, 0x17, 0x9d, 0x3e, 0x83, 0xd4, 0x3b, 0x95, 0x76, 0x57, 0x94, 0x93, 0xc0, 0xe9,
       0x39, 0x57, 0x2a, 0x17, 0x00, 0x25, 0x2b, 0xfa, 0xcc, 0xbe, 0xd2, 0x90, 0x2c, 0x21, 0x39,
       0x6c, 0xbb, 0x73, 0x1c, 0x7f, 0x1b, 0x0b, 0x4a, 0xa6, 0x44, 0x0b, 0xf3, 0xa8, 0x2f, 0x4e,
       0xda, 0x7e, 0x39, 0xae, 0x64, 0xc6, 0x70, 0x8c, 0x54, 0xc2, 0x16, 0xcb, 0x96, 0xb7, 0x2e,
       0x12, 0x13, 0xb4, 0x52, 0x2f, 0x8c, 0x9b, 0xa4, 0x0d, 0xb5, 0xd9, 0x45, 0xb1, 0x1b, 0x69,
       0xb9, 0x82, 0xc1, 0xbb, 0x9e, 0x3f, 0x3f, 0xac, 0x2b, 0xc3, 0x69, 0x48, 0x8f, 0x76, 0xb2,
       0x38, 0x35, 0x65, 0xd3, 0xff, 0xf9, 0x21, 0xf9, 0x66, 0x4c, 0x97, 0x63, 0x7d, 0xa9, 0x76,
       0x88, 0x12, 0xf6, 0x15, 0xc6, 0x8b, 0x13, 0xb5, 0x2e]
    (enclose key nonce message).take message.length = cipher
      ∧ jointTag key nonce beside cipher
        = [0xc0, 0x87, 0x59, 0x24, 0xc1, 0xc7, 0x98, 0x79, 0x47, 0xde, 0xaf, 0xd8, 0x78, 0x0a, 0xcf,
           0x49] := by
  decide +kernel

/-- A tag behind enciphered data opens it exactly if it is its tag. -/
theorem disclose?_append
    (k : Key) (n : Nonce) {cipher t : Bytes} (h : t.length = 16) :
    disclose? k n (cipher ++ t)
      = if t = sealTag k n cipher then
          some (encipher (streamKey k n) (streamNonce n) 1 cipher)
        else none := by
  simp [disclose?, h]

/-- Data shorter than a tag does not open. -/
theorem disclose?_eq_none_of_length
    (k : Key) (n : Nonce) {sealed : Bytes} (h : sealed.length < 16) :
    disclose? k n sealed = none := by
  have : ¬ 16 ≤ sealed.length := by omega
  simp [disclose?, this]

/-- Data that opens is the enciphered message with its tag behind it. -/
theorem disclose?_eq_some_iff
    {k : Key} {n : Nonce} {sealed message : Bytes} :
    disclose? k n sealed = some message
      ↔ ∃ cipher, sealed = cipher ++ sealTag k n cipher
        ∧ message = encipher (streamKey k n) (streamNonce n) 1 cipher := by
  constructor
  · intro h
    by_cases hopens : 16 ≤ sealed.length ∧ sealed.drop (sealed.length - 16)
        = sealTag k n (sealed.take (sealed.length - 16))
    · rw [disclose?, if_pos hopens] at h
      refine ⟨sealed.take (sealed.length - 16), ?_, (Option.some.inj h).symm⟩
      rw [← hopens.2, List.take_append_drop]
    · rw [disclose?, if_neg hopens] at h
      cases h
  · rintro ⟨cipher, rfl, rfl⟩
    rw [disclose?_append k n (length_sealTag k n cipher), if_pos rfl]

end Cipher
end DealDesk
