import DealDesk.Session.Basic

/-!
# Contents of a vault

What a vault keeps: a session in the open, or the text of a nonce and of the
sealed session.  The member `format` tells which, and it may stand anywhere in
the object; the other members are set aside until it is known.
-/

namespace DealDesk
namespace Vault

open Json

/-- The content of a cache file: a session in the open, or sealed. -/
inductive Content where
  | plain (session : Session)
  | sealed (nonce ciphertext : String)

/-- The two forms of content. -/
inductive Format where
  | plain
  | sealed
deriving DecidableEq

namespace Format

def name : Format → String
  | .plain => "plaintext"
  | .sealed => "xchacha20poly1305"

def all : List Format := [.plain, .sealed]

def names : Codec.Names Format := ⟨name, all, none⟩

/-- The form that a document names. -/
def read : Doc → Except Fault Format
  | .str (some s) => names.resolve s
  | d => .error (d.mismatch "variant identifier")

end Format

namespace Content

/-- The member that tells the form. -/
def formatKey : String := "format"

/-- How deep the members of a content may nest. -/
def depth : Nat := 126

/-- A document can be set aside: it is sound, and so are its texts and its numbers. -/
def canWait (d : Doc) : Bool :=
  d.isLegible (fun n => (Number.ofNumeral? n).isSome) depth

/-- The form among the members, and the other members in their order. -/
def collect : Option Format → List (Option String × Doc) →
    Except Fault (Option Format × List (Option String × Doc))
  | format, [] => .ok (format, [])
  | _, (none, _) :: _ => .error .malformed
  | format, (some key, d) :: r =>
      if key = formatKey then
        match format with
        | some _ => .error (.repeatedMember formatKey)
        | none =>
            match Format.read d with
            | .error e => .error e
            | .ok f => collect (some f) r
      else if canWait d then
        match collect format r with
        | .error e => .error e
        | .ok (f, ms) => .ok (f, (some key, d) :: ms)
      else .error .malformed

/-- The members of a session in the open. -/
def plainFields :=
  Fields.cons (.required "credentials" Session.codec) <|
  Fields.nil

/-- The members of a sealed session. -/
def sealedFields :=
  Fields.cons (.required "nonce" Codec.string) <|
  Fields.cons (.required "ciphertext" Codec.string) <|
  Fields.nil

/-- The content of a form, from what was set aside. -/
def ofForm (format : Format) (d : Doc) : Except Fault Content :=
  let result := match format with
    | .plain =>
        (plainFields.read "struct variant CacheFile::Plaintext" d).map
          fun (session, ()) => plain session
    | .sealed =>
        (sealedFields.read "struct variant CacheFile::Sealed" d).map
          fun (nonce, ciphertext, ()) => sealed nonce ciphertext
  match result with
  | .error e => .error e.setAside
  | .ok c => .ok c

/-- The content of an object, or of an array with the form in front. -/
def read : Doc → Except Fault Content
  | .obj members =>
      match collect none members with
      | .error e => .error e
      | .ok (none, _) => .error (.missingMember formatKey)
      | .ok (some format, ms) => ofForm format (.obj ms)
  | .arr [] => .error (.missingMember formatKey)
  | .arr (d :: r) =>
      match Format.read d with
      | .error e => .error e
      | .ok format => if r.all canWait then ofForm format (.arr r) else .error .malformed
  | .misnamed _ => .error .malformed
  | d => .error (d.mismatch "internally tagged enum CacheFile")

/-- The members, the form in front. -/
def write : Content → Doc
  | .plain session =>
      .obj (Doc.member formatKey (.str (some Format.plain.name))
        :: plainFields.members (session, ()))
  | .sealed nonce ciphertext =>
      .obj (Doc.member formatKey (.str (some Format.sealed.name))
        :: sealedFields.members (nonce, ciphertext, ()))

/-- How contents stand in documents. -/
def codec : Codec Content := ⟨read, write⟩

end Content
end Vault
end DealDesk
