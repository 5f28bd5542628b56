import DealDesk.Cipher.Base64
import DealDesk.Cipher.Sealing
import DealDesk.Cipher.Stretch
import DealDesk.Text.Blank
import DealDesk.Text.Utf8

/-!
# Keys of a vault

A key is written in base 64, read back from that spelling with blanks around it,
or stretched from a passphrase.
-/

namespace DealDesk
namespace Vault

open Cipher

/-- Why something is no key. -/
inductive KeyFault where
  | notBase64 (fault : Base64.Fault)
  | wrongLength (length : Nat)
  | shortSalt
deriving DecidableEq

namespace KeyFault

def message : KeyFault → String
  | .notBase64 fault => "Invalid cache key: not valid base64: " ++ fault.message
  | .wrongLength n =>
      "Invalid cache key: expected 32 bytes, got " ++ String.ofList (natText n)
  | .shortSalt => "Invalid cache key: key derivation failed: salt is too short"

end KeyFault

/-- The spelling of a key. -/
def keyText (k : Key) : String :=
  Base64.text k.bytes

/-- What is shown of a key in diagnostics. -/
def keyDiagnostic : String := "CacheKey([REDACTED])"

/-- The key that a text spells, blanks around it aside. -/
def keyOfText (s : String) : Except KeyFault Key :=
  match Base64.decode (Text.bytes (Text.trimmed s)) with
  | .error fault => .error (.notBase64 fault)
  | .ok bs =>
      match Key.ofBytes? bs with
      | none => .error (.wrongLength bs.length)
      | some k => .ok k

/-- The key stretched from a passphrase and a salt. -/
def keyOfPassphrase (passphrase salt : String) : Except KeyFault Key :=
  if (Text.bytes salt).length < Stretch.saltLength then .error .shortSalt
  else
    let bs := Stretch.argon2id (Text.bytes passphrase) (Text.bytes salt)
    match Key.ofBytes? bs with
    | none => .error (.wrongLength bs.length)
    | some k => .ok k

end Vault
end DealDesk
