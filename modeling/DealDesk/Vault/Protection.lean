import DealDesk.Vault.Content
import DealDesk.Vault.Key

/-!
# Protection of a session

A session is kept in the open or sealed under a key.  What was kept one way is
refused the other way.
-/

namespace DealDesk
namespace Vault

open Cipher Json

/-- The protection of a file store: in the open, or sealed under a key. -/
inductive Protection where
  | plain
  | sealed (key : Key)
deriving DecidableEq

/-- Why a content is not opened. -/
inductive Refusal where
  | sealedWithoutKey
  | plainWithKey
  | badNonce (fault : Base64.Fault)
  | nonceLength (length : Nat)
  | badCiphertext (fault : Base64.Fault)
  | wrongTag
  | noSession (fault : Fault)

namespace Refusal

/-- The wording of a refusal. -/
def message : Refusal → String
  | .sealedWithoutKey => "file is encrypted but no cache key was configured"
  | .plainWithKey => "file is plaintext but a cache key was configured"
  | .badNonce fault => "nonce is not valid base64: " ++ fault.message
  | .nonceLength n => "nonce must be 24 bytes, got " ++ String.ofList (natText n)
  | .badCiphertext fault => "ciphertext is not valid base64: " ++ fault.message
  | .wrongTag => "decryption failed (wrong key or tampered data)"
  | .noSession fault => "decrypted payload is not a session: " ++ fault.message

end Refusal

namespace Protection

/-- The content that keeps a session; the nonce is used only for sealing. -/
def keep (p : Protection) (nonce : Nonce) (s : Session) : Content :=
  match p with
  | .plain => .plain s
  | .sealed key =>
      .sealed (Base64.text nonce.bytes)
        (Base64.text (enclose key nonce (Text.bytes (Session.codec.text s))))

/-- The session of a sealed content. -/
def unlock (key : Key) (nonce ciphertext : String) : Except Refusal Session :=
  match Base64.decode (Text.bytes nonce) with
  | .error fault => .error (.badNonce fault)
  | .ok bs =>
      match Nonce.ofBytes? bs with
      | none => .error (.nonceLength bs.length)
      | some n =>
          match Base64.decode (Text.bytes ciphertext) with
          | .error fault => .error (.badCiphertext fault)
          | .ok data =>
              match disclose? key n data with
              | none => .error .wrongTag
              | some message =>
                  match Session.codec.ofBytes message with
                  | .error fault => .error (.noSession fault)
                  | .ok s => .ok s

/-- The session that a content keeps. -/
def release (p : Protection) (c : Content) : Except Refusal Session :=
  match p, c with
  | .plain, .plain s => .ok s
  | .plain, .sealed _ _ => .error .sealedWithoutKey
  | .sealed _, .plain _ => .error .plainWithKey
  | .sealed key, .sealed nonce ciphertext => unlock key nonce ciphertext

end Protection
end Vault
end DealDesk
