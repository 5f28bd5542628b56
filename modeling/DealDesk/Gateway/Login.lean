import DealDesk.Gateway.Client
import DealDesk.Vault.Basic

/-!
# Logging in and out

A desk hands out sessions.  It looks into its vault first and logs in only if
that has no valid session; the session of a login goes into the vault.

**Results.** A valid session in the vault is handed out without a request, and a
login that fails leaves the vault as it is.
-/

namespace DealDesk
namespace Gateway

open Json

/-- The login configuration: what it takes to log in. -/
structure Access where
  /-- The URL of the gateway, with no slash at its end. -/
  baseUrl : String
  apiKey : String
  identifier : String
  password : String
  /-- How long a session grants access after its login. -/
  lifetime : Span
deriving DecidableEq

namespace Access

/-- How long a session lasts unless something else is known. -/
def defaultLifetime : Span := Span.ofMinutes 360

/-- Access to the gateway at a URL. -/
def ofUrl (url apiKey identifier password : String) (lifetime : Span) : Access :=
  ⟨trimmedUrl url, apiKey, identifier, password, lifetime⟩

/-- Where sessions are made and ended. -/
def sessionUrl (a : Access) : String :=
  a.baseUrl ++ "/gateway/deal/session"

/-- What is shown of an access in diagnostics: no secret. -/
def diagnostic (a : Access) : String :=
  "LoginConfig \x7b base_url: " ++ Text.quoted a.baseUrl ++ ", identifier: "
    ++ Text.quoted a.identifier ++ ", session_lifetime: " ++ a.lifetime.diagnostic
    ++ ", .. \x7d"

/-- Who logs in, and the password. -/
def document (a : Access) : Doc :=
  .obj [Doc.member "identifier" (Codec.string.write a.identifier),
    Doc.member "password" (Codec.string.write a.password)]

/-- The request that logs in. -/
def loginRequest (a : Access) : Except TransportFault Request :=
  (standardHeaders a.apiKey 2).map fun headers =>
    { method := .post, url := a.sessionUrl, headers, body := some a.document }

/-- The request that ends a session. -/
def logoutRequest (a : Access) (s : Session) : Except TransportFault Request :=
  (sessionHeaders a.apiKey 1 s).map fun headers =>
    { method := .delete, url := a.sessionUrl, headers, body := none }

/-- The session of a reply to a login: both tokens, then the account, then the expiry. -/
def sessionOfReply (a : Access) (now : Instant) (reply : Reply) :
    Except LoginFailure Session :=
  if !reply.isSuccess then .error (.rejected reply.status (excerpt reply.body))
  else
    match Header.find? reply.headers Header.clientTokenName with
    | none => .error (.missingToken "CST")
    | some clientToken =>
        match Header.find? reply.headers Header.securityTokenName with
        | none => .error (.missingToken "X-SECURITY-TOKEN")
        | some securityToken =>
            match Account.codec.ofText reply.body with
            | .error fault => .error (.invalidResponse fault)
            | .ok account =>
                match now.add? a.lifetime with
                | none => .error (.endlessSession a.lifetime now)
                | some expiry => .ok { clientToken, securityToken, expiry, account }

/-- A login, whatever a vault may hold. -/
def login (a : Access) (now : Instant) (n : Network) :
    Except LoginFailure Session × Network :=
  match a.loginRequest with
  | .error fault => (.error (.transport fault), n)
  | .ok request =>
      match n.send request with
      | (.error fault, n) => (.error (.transport fault), n)
      | (.ok reply, n) => (a.sessionOfReply now reply, n)

end Access

/-- Why a desk could not do what it was asked for. -/
inductive Failure where
  | login (e : LoginFailure)
  | vault (e : Vault.Fault)
  | operation (e : OperationFailure)

namespace Failure

def message : Failure → String
  | .login e => e.message
  | .vault e => e.message
  | .operation e => e.message

def chain : Failure → List String
  | .login e => e.chain
  | .vault e => e.chain
  | .operation e => e.chain

/-- What the vault keeps is of no use; clearing it helps. -/
def isCorruption : Failure → Bool
  | .vault e => e.isCorruption
  | _ => false

end Failure

/-- The authentication service: it hands out sessions, with or without a vault as its cache. -/
structure Desk where
  access : Access
  network : Network
  vault : Option Vault
  /-- How long a session from the vault has to be valid at least. -/
  margin : Span

namespace Desk

/-- The valid session in the vault, if there is a vault and one in it. -/
def kept (d : Desk) (now : Instant) : Except Vault.Fault (Option Session) :=
  match d.vault with
  | none => .ok none
  | some v => v.valid? now d.margin

/-- A session goes into the vault, if there is one. -/
def keep (d : Desk) (s : Session) : Except Vault.Fault Unit × Desk :=
  match d.vault with
  | none => (.ok (), d)
  | some v =>
      let (result, v) := v.save s
      (result, { d with vault := some v })

/-- The vault is cleared, if there is one. -/
def clearVault (d : Desk) : Except Vault.Fault Unit × Desk :=
  match d.vault with
  | none => (.ok (), d)
  | some v =>
      let (result, v) := v.clear
      (result, { d with vault := some v })

/-- A login, whatever the vault holds; the vault is not touched. -/
def login (d : Desk) (now : Instant) : Except LoginFailure Session × Desk :=
  let (result, network) := d.access.login now d.network
  (result, { d with network })

/-- A valid session: from the vault, or from a login. -/
def authenticate (d : Desk) (now : Instant) : Except Failure Session × Desk :=
  match d.kept now with
  | .error e => (.error (.vault e), d)
  | .ok (some s) => (.ok s, d)
  | .ok none =>
      match d.login now with
      | (.error e, d) => (.error (.login e), d)
      | (.ok s, d) =>
          match d.keep s with
          | (.error e, d) => (.error (.vault e), d)
          | (.ok (), d) => (.ok s, d)

/--
A session is ended and the vault cleared, whatever the gateway answers.  A
request that cannot be made leaves everything as it is.
-/
def logout (d : Desk) (s : Session) : Except Failure Unit × Desk :=
  match d.access.logoutRequest s with
  | .error fault => (.error (.operation (.request (.transport fault))), d)
  | .ok request =>
      let (outcome, network) := d.network.send request
      match { d with network }.clearVault with
      | (.error e, d) => (.error (.vault e), d)
      | (.ok (), d) =>
          match RequestFailure.body outcome with
          | .error e => (.error (.operation (.request e)), d)
          | .ok _ => (.ok (), d)

/-- A client in a valid session. -/
def connect (d : Desk) (now : Instant) : Except Failure Client × Desk :=
  match d.authenticate now with
  | (.error e, d) => (.error e, d)
  | (.ok s, d) => (.ok (Client.ofUrl d.access.baseUrl d.access.apiKey s), d)

theorem authenticate_of_kept
    {d : Desk} {now : Instant} {s : Session} (h : d.kept now = .ok (some s)) :
    d.authenticate now = (.ok s, d) := by
  simp [authenticate, h]

theorem vault_login (d : Desk) (now : Instant) :
    (d.login now).2.vault = d.vault := rfl

end Desk
end Gateway
end DealDesk
