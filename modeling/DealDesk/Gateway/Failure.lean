import DealDesk.Gateway.Exchange
import DealDesk.Rules.Basic

/-!
# Failures of requests

What can go wrong with a request that was sent or nearly sent, told by the status
of the reply.  Bodies of replies are quoted up to a limit.
-/

namespace DealDesk
namespace Gateway

open Json

/-- The most bytes of a body that are quoted. -/
def excerptLimit : Nat := 500

/-- What follows a body that is not quoted in full. -/
def cutMark (body : String) : String :=
  "... (truncated, " ++ String.ofList (natText body.utf8ByteSize) ++ " total bytes)"

/--
A body, or its front up to the last boundary within the limit and how long it is; nothing if
no boundary is found, or if the body cannot be cut there.
-/
def excerpt? (body : String) : Option String :=
  if body.utf8ByteSize ≤ excerptLimit then some body
  else do
    let stop ← Text.boundaryFrom? body excerptLimit
    let front ← Text.upTo? body stop
    some (front ++ cutMark body)

/-- A body can be cut where the search for a boundary ends. -/
theorem isSome_excerpt? (body : String) :
    (excerpt? body).isSome = true := by
  unfold excerpt?
  split
  · rfl
  · obtain ⟨stop, front, hstop, hfront⟩ := Text.exists_cut body excerptLimit
    simp [hstop, hfront]

/-- What is quoted of a body. -/
def excerpt (body : String) : String :=
  (excerpt? body).get (isSome_excerpt? body)

/-- A request error: why a request on deals failed. -/
inductive RequestFailure where
  | unauthorized
  | accessDenied (body : String)
  | notFound (body : String)
  | rateLimited
  | server (status : Nat) (body : String)
  | unexpected (status : Nat) (body : String)
  | transport (fault : TransportFault)
  /-- The reply is a success, but its body is not what was asked for. -/
  | invalidResponse (fault : Fault)

namespace RequestFailure

/-- The failure that a status stands for. -/
def ofStatus (status : Nat) (body : String) : RequestFailure :=
  if status = 401 then .unauthorized
  else if status = 403 then .accessDenied (excerpt body)
  else if status = 404 then .notFound (excerpt body)
  else if status = 429 then .rateLimited
  else if 500 ≤ status ∧ status ≤ 599 then .server status (excerpt body)
  else .unexpected status (excerpt body)

/-- The status of the reply, if there was one that tells of a failure. -/
def status : RequestFailure → Option Nat
  | .unauthorized => some 401
  | .accessDenied _ => some 403
  | .notFound _ => some 404
  | .rateLimited => some 429
  | .server s _ => some s
  | .unexpected s _ => some s
  | .transport _ => none
  | .invalidResponse _ => none

/-- A number and a body behind a few words. -/
def withStatus (words : String) (status : Nat) (body : String) : String :=
  words ++ " " ++ String.ofList (natText status) ++ ": " ++ body

def message : RequestFailure → String
  | .unauthorized => "Unauthorized - session may have expired"
  | .accessDenied body => "Access denied: " ++ body
  | .notFound body => "Resource not found: " ++ body
  | .rateLimited => "Rate limited - please wait before retrying"
  | .server s body => withStatus "Server error" s body
  | .unexpected s body => withStatus "Unexpected status" s body
  | .transport fault => "Network error: " ++ fault.message
  | .invalidResponse fault => "Invalid response: " ++ fault.message

def chain (e : RequestFailure) : List String :=
  e.message ::
    match e with
    | .transport fault => fault.chain
    | _ => []

/-- A status that tells of a failure is kept in the failure. -/
theorem status_ofStatus (s : Nat) (body : String) :
    (ofStatus s body).status = some s := by
  unfold ofStatus
  repeat' split
  all_goals simp_all [status]

/-- The body of a reply to a request on deals, if the reply is a success. -/
def body (outcome : Outcome) : Except RequestFailure String :=
  match outcome with
  | .error fault => .error (.transport fault)
  | .ok reply =>
      if reply.isSuccess then .ok reply.body
      else .error (ofStatus reply.status reply.body)

/-- What a reply to a request on deals holds. -/
def content {α : Type} (c : Codec α) (outcome : Outcome) : Except RequestFailure α :=
  match body outcome with
  | .error e => .error e
  | .ok text =>
      match c.ofText text with
      | .error fault => .error (.invalidResponse fault)
      | .ok v => .ok v

end RequestFailure

/-- An authentication error: why a login failed. -/
inductive LoginFailure where
  | rejected (status : Nat) (body : String)
  | transport (fault : TransportFault)
  /-- A token is not among the headers of the reply. -/
  | missingToken (name : String)
  | invalidResponse (fault : Fault)
  /-- No instant stands for the end of the session. -/
  | endlessSession (lifetime : Span) (now : Instant)

namespace LoginFailure

/-- The status of a reply that rejects the login. -/
def status : LoginFailure → Option Nat
  | .rejected s _ => some s
  | _ => none

def message : LoginFailure → String
  | .rejected s body => RequestFailure.withStatus "Login rejected with status" s body
  | .transport fault => "Login request failed: " ++ fault.message
  | .missingToken name => "Login response is missing the " ++ name ++ " header"
  | .invalidResponse fault => "Invalid login response: " ++ fault.message
  | .endlessSession lifetime now =>
      "Invalid login response: session lifetime " ++ lifetime.text
        ++ " overflows the expiry from " ++ now.prose

def chain (e : LoginFailure) : List String :=
  e.message ::
    match e with
    | .transport fault => fault.chain
    | _ => []

end LoginFailure
end Gateway
end DealDesk
