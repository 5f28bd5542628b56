import DealDesk.Proofs.Vault.Safe

/-!
# Sealed contents

What is kept under a key is a nonce and sealed data, both spelled in base 64.  The data
is a message behind which stands its tag; it is opened first, and what comes out is read
as a session.

**Results.** `Protection.release_tagged`: data with sixteen bytes at its end is opened
exactly if they are the tag of what is in front of them.  `Protection.sealed_opens`: what
was sealed is released as it was exactly if it reads back, and enciphered bytes have
exactly one tag with which they are opened.  `Protection.not_sealed_opens`: amounts that
read back are not enough.
-/

namespace DealDesk
namespace Vault

open Cipher Json

/-- The content of a nonce and sealed data. -/
def Content.ofSealed (nonce : Nonce) (data : Bytes) : Content :=
  .sealed (Base64.text nonce.bytes) (Base64.text data)

namespace Protection

section Release

variable (key : Key) (nonce : Nonce)

/-- Sealed data is opened, and the message in it is read as a session. -/
theorem release_ofSealed (data : Bytes) :
    release (.sealed key) (.ofSealed nonce data)
      = match disclose? key nonce data with
        | none => .error .wrongTag
        | some message => (Session.codec.ofBytes message).mapError .noSession := by
  simp only [release, Content.ofSealed, unlock, Base64.decode_bytes_text, Nonce.ofBytes?_bytes]
  cases disclose? key nonce data with
  | none => rfl
  | some message =>
      simp only
      cases Session.codec.ofBytes message with
      | error fault => rfl
      | ok s => rfl

/-- Sixteen bytes behind enciphered ones decide whether these are read at all. -/
theorem release_tagged (body : Bytes) {t : Bytes} (ht : t.length = 16) :
    release (.sealed key) (.ofSealed nonce (body ++ t))
      = if t = sealTag key nonce body then
          (Session.codec.ofBytes
            (encipher (streamKey key nonce) (streamNonce nonce) 1 body)).mapError .noSession
        else .error .wrongTag := by
  rw [release_ofSealed, disclose?_append key nonce ht]
  by_cases h : t = sealTag key nonce body
  · simp only [if_pos h]
  · simp only [if_neg h]

/-- What is read of an opened message is not refused for its tag. -/
theorem mapError_noSession_ne (r : Except Json.Fault Session) :
    r.mapError .noSession ≠ .error Refusal.wrongTag := by
  intro h
  cases r with
  | error fault => cases h
  | ok s => cases h

end Release

/-- What a sealed session is released as. -/
theorem release_keep_iff
    (key : Key) (nonce : Nonce) (s t : Session) :
    release (.sealed key) (keep (.sealed key) nonce s) = .ok t ↔ s.Reread t :=
  unlock_keep_iff key nonce s t

/--
A session sealed under a key and a nonce is released under that key as what it is read as,
and so as it was exactly if its amounts and its expiry read back.  Enciphered bytes, however
many, are read with exactly one tag of sixteen bytes behind them; with any other one, and
where there are fewer than sixteen bytes, the answer is that the tag is wrong.
-/
theorem sealed_opens (key : Key) (nonce : Nonce) :
    (∀ s, (release (.sealed key) (keep (.sealed key) nonce s) = .ok s ↔ s.Exact)
      ∧ ∀ t, release (.sealed key) (keep (.sealed key) nonce s) = .ok t ↔ s.Reread t)
    ∧ (∀ body, ∃ t, t.length = 16
      ∧ release (.sealed key) (.ofSealed nonce (body ++ t)) ≠ .error .wrongTag
      ∧ ∀ u, u.length = 16 → u ≠ t →
        release (.sealed key) (.ofSealed nonce (body ++ u)) = .error .wrongTag)
    ∧ ∀ data, data.length < 16 →
      release (.sealed key) (.ofSealed nonce data) = .error .wrongTag := by
  refine ⟨?_, ?_, ?_⟩
  · intro s
    exact ⟨(release_keep_iff key nonce s s).trans s.reread_self_iff, release_keep_iff key nonce s⟩
  · intro body
    have hlength : (sealTag key nonce body).length = 16 := length_sealTag key nonce body
    refine ⟨sealTag key nonce body, hlength, ?_, ?_⟩
    · rw [release_tagged key nonce body hlength, if_pos rfl]
      exact mapError_noSession_ne _
    · intro u hu hne
      rw [release_tagged key nonce body hu, if_neg hne]
  · intro data hdata
    rw [release_ofSealed, disclose?_eq_none_of_length key nonce hdata]

def keySpecimen : Key := ⟨List.replicate 32 7, rfl⟩

def nonceSpecimen : Nonce := ⟨List.replicate 24 7, rfl⟩

/-- All amounts of the session read back, but it is released with an expiry in the next second. -/
theorem not_sealed_opens :
    Session.lateSpecimen.Faithful
      ∧ release (.sealed keySpecimen) (keep (.sealed keySpecimen) nonceSpecimen .lateSpecimen)
        ≠ .ok .lateSpecimen
      ∧ release (.sealed keySpecimen) (keep (.sealed keySpecimen) nonceSpecimen .lateSpecimen)
        = .ok Session.lateRead := by
  obtain ⟨hfaithful, hexact⟩ := Session.not_exact_lateSpecimen
  rw [Ne, release_keep_iff, release_keep_iff, Session.reread_self_iff]
  exact ⟨hfaithful, hexact, Session.reread_lateSpecimen⟩

end Protection
end Vault
end DealDesk
