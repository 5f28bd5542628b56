import DealDesk.Proofs.Vault.Calls
import DealDesk.Proofs.Vault.Sealed

/-!
# The two modes of a file

Whether a file is read in the open or under a key is a matter of who reads it, and the file
may have been written by anybody.  Its bytes are first read as a content, which is the same
in both modes.  A content in the open has a session for a reader without a key, and a sealed
one for a reader with the right key; each is refused to the other reader.

**Results.** `Protection.unlock_eq_ok_iff`: a sealed content is unlocked exactly if its two
texts spell a nonce and enciphered bytes with their tag, and these are those of a session.
`Safe.load_of_content`: what is loaded from a file.  `Safe.modes_apart`: for all bytes of a file
the two modes have at most one session, and nothing but a corrupted file besides.
-/

namespace DealDesk
namespace Vault

open Cipher Json

namespace Protection

/--
A sealed content is unlocked as a session exactly if its texts are the spellings of a nonce
and of enciphered bytes with their tag, and the deciphered bytes are those of the session.
-/
theorem unlock_eq_ok_iff
    {key : Key} {nonce ciphertext : String} {s : Session} :
    unlock key nonce ciphertext = .ok s
      ↔ ∃ (n : Nonce) (cipher : Bytes), nonce = Base64.text n.bytes
        ∧ ciphertext = Base64.text (cipher ++ sealTag key n cipher)
        ∧ Session.codec.ofBytes (encipher (streamKey key n) (streamNonce n) 1 cipher)
          = .ok s := by
  constructor
  · intro h
    rw [unlock] at h
    cases hnonce : Base64.decode (Text.bytes nonce) with
    | error fault =>
        rw [hnonce] at h
        cases h
    | ok bs =>
        rw [hnonce] at h
        cases hn : Nonce.ofBytes? bs with
        | none =>
            simp only [hn] at h
            cases h
        | some n =>
            simp only [hn] at h
            cases hdata : Base64.decode (Text.bytes ciphertext) with
            | error fault =>
                simp only [hdata] at h
                cases h
            | ok data =>
                simp only [hdata] at h
                cases hopen : disclose? key n data with
                | none =>
                    simp only [hopen] at h
                    cases h
                | some message =>
                    simp only [hopen] at h
                    obtain ⟨cipher, rfl, rfl⟩ := disclose?_eq_some_iff.1 hopen
                    refine ⟨n, cipher, ?_, Base64.decode_bytes_eq_ok_iff.1 hdata, ?_⟩
                    · rw [← Nonce.ofBytes?_eq_some_iff.1 hn]
                      exact Base64.decode_bytes_eq_ok_iff.1 hnonce
                    · cases hread : Session.codec.ofBytes
                          (encipher (streamKey key n) (streamNonce n) 1 cipher) with
                      | error fault =>
                          rw [hread] at h
                          cases h
                      | ok t =>
                          rw [hread] at h
                          cases h
                          rfl
  · rintro ⟨n, cipher, rfl, rfl, hread⟩
    have htagged := release_tagged key n cipher (length_sealTag key n cipher)
    rw [if_pos rfl, hread] at htagged
    exact htagged

end Protection

namespace Safe

/-- What is loaded from a file whose bytes are a content. -/
theorem load_of_content
    (safe : Safe) {d : Disk} {bytes : List UInt8} {c : Content}
    (hread : d.read safe.path = .ok bytes) (hc : Content.codec.ofBytes bytes = .ok c) :
    safe.load d = ((safe.protection.release c).mapError fun refusal =>
      .corrupted safe.path (.refused refusal)).map some := by
  simp only [load, hread, open?, hc]
  cases safe.protection.release c with
  | error refusal => rfl
  | ok s => rfl

/-- What is loaded from a file whose bytes are no content. -/
theorem load_of_fault
    (safe : Safe) {d : Disk} {bytes : List UInt8} {fault : Json.Fault}
    (hread : d.read safe.path = .ok bytes) (hfault : Content.codec.ofBytes bytes = .error fault) :
    safe.load d = .error (.corrupted safe.path (.unreadable fault)) := by
  simp only [load, hread, open?, hfault]
  rfl

/-- What is loaded in each mode from the file of a path, if that file has some bytes. -/
structure Apart (d : Disk) (path : Disk.Path) (bytes : List UInt8) (key : Key) : Prop where
  /-- The file is never taken for absent, and nothing else is wrong with it than its bytes. -/
  present : ∀ protection, (∃ s, load ⟨path, protection⟩ d = .ok (some s))
    ∨ ∃ c, load ⟨path, protection⟩ d = .error (.corrupted path c)
  /-- At most one mode has a session. -/
  exclusive : ∀ s t,
    ¬ (load ⟨path, .plain⟩ d = .ok (some s) ∧ load ⟨path, .sealed key⟩ d = .ok (some t))
  /-- Bytes that are no content are corrupted for the same reason in both modes. -/
  foreign : ∀ fault, Content.codec.ofBytes bytes = .error fault →
    load ⟨path, .plain⟩ d = .error (.corrupted path (.unreadable fault))
      ∧ load ⟨path, .sealed key⟩ d = .error (.corrupted path (.unreadable fault))
  /-- A session in the open is loaded in the open, and refused under a key. -/
  plain : ∀ s, Content.codec.ofBytes bytes = .ok (.plain s) →
    load ⟨path, .plain⟩ d = .ok (some s)
      ∧ load ⟨path, .sealed key⟩ d = .error (.corrupted path (.refused .plainWithKey))
  /--
  A sealed content is refused in the open; under the key it has a session exactly if its
  texts are the spellings of a nonce and of enciphered bytes with their tag, and the
  deciphered bytes are those of the session.
  -/
  sealed : ∀ nonce ciphertext, Content.codec.ofBytes bytes = .ok (.sealed nonce ciphertext) →
    load ⟨path, .plain⟩ d = .error (.corrupted path (.refused .sealedWithoutKey))
      ∧ ∀ s, load ⟨path, .sealed key⟩ d = .ok (some s)
        ↔ ∃ (n : Nonce) (cipher : Bytes), nonce = Base64.text n.bytes
          ∧ ciphertext = Base64.text (cipher ++ sealTag key n cipher)
          ∧ Session.codec.ofBytes (encipher (streamKey key n) (streamNonce n) 1 cipher)
            = .ok s
  /-- Whoever loads leaves the vault with its disk as it is. -/
  kept : ∀ v : Vault, (v.call .load).2 = v

/--
For all bytes that a file can have and every key, loading the file in the open and loading it
under the key have at most one session between them, each from a content of its own mode;
everything else is a corrupted file.
-/
theorem modes_apart
    {d : Disk} {path : Disk.Path} {bytes : List UInt8} (hread : d.read path = .ok bytes)
    (key : Key) :
    Apart d path bytes key := by
  have hcontent (protection : Protection) {c : Content}
      (hc : Content.codec.ofBytes bytes = .ok c) :=
    load_of_content ⟨path, protection⟩ hread hc
  have hplain (s : Session) (hc : Content.codec.ofBytes bytes = .ok (.plain s)) :
      load ⟨path, .sealed key⟩ d = .error (.corrupted path (.refused .plainWithKey)) :=
    hcontent (.sealed key) hc
  have hsealed (nonce ciphertext : String)
      (hc : Content.codec.ofBytes bytes = .ok (.sealed nonce ciphertext)) :
      load ⟨path, .plain⟩ d = .error (.corrupted path (.refused .sealedWithoutKey)) :=
    hcontent .plain hc
  refine
    { present := fun protection => (load_cases ⟨path, protection⟩ hread).symm
      exclusive := ?_
      foreign := fun fault hfault =>
        ⟨load_of_fault ⟨path, .plain⟩ hread hfault,
          load_of_fault ⟨path, .sealed key⟩ hread hfault⟩
      plain := fun s hc => ⟨hcontent .plain hc, hplain s hc⟩
      sealed := fun nonce ciphertext hc => ⟨hsealed nonce ciphertext hc, fun s => ?_⟩
      kept := fun v => rfl }
  · rintro s t ⟨hs, ht⟩
    cases hc : Content.codec.ofBytes bytes with
    | error fault =>
        rw [load_of_fault ⟨path, .plain⟩ hread hc] at hs
        cases hs
    | ok c =>
        cases c with
        | plain kept =>
            rw [hplain kept hc] at ht
            cases ht
        | sealed nonce ciphertext =>
            rw [hsealed nonce ciphertext hc] at hs
            cases hs
  · rw [← Protection.unlock_eq_ok_iff, hcontent (.sealed key) hc, Protection.release]
    cases Protection.unlock key nonce ciphertext with
    | error refusal =>
        constructor
        · intro h
          cases h
        · intro h
          cases h
    | ok t => simp [Except.map, Except.mapError]

/-- A safe under a key of zeros. -/
def sealedSpecimen : Safe :=
  ⟨⟨"session.json"⟩, .sealed ⟨List.replicate 32 0, List.length_replicate⟩⟩

/-- A disk on which a session was put into that safe. -/
def sealedDisk : Disk :=
  (sealedSpecimen.save ⟨[], []⟩ (Vault.blank.nonces 0) .specimen).2

theorem modes_apart_specimen :
    sealedDisk.read ⟨"session.json"⟩
        = .ok (sealedSpecimen.encoding (Vault.blank.nonces 0) .specimen)
      ∧ Apart sealedDisk ⟨"session.json"⟩
        (sealedSpecimen.encoding (Vault.blank.nonces 0) .specimen)
        ⟨List.replicate 32 0, List.length_replicate⟩
      ∧ sealedSpecimen.load sealedDisk = .ok (some .specimen) := by
  have hsave : (sealedSpecimen.save ⟨[], []⟩ (Vault.blank.nonces 0) .specimen).1 = .ok () :=
    ((fresh_specimen sealedSpecimen.protection).keeps_none.save .specimen).1
  have hread := read_save hsave
  exact ⟨hread, modes_apart hread _, (load_save_iff hsave).2 Session.exact_specimen⟩

end Safe
end Vault
end DealDesk
