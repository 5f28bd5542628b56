import DealDesk.Deal.Confirmation
import DealDesk.Gateway.Failure
import DealDesk.Rules.Ticket
import DealDesk.Session.Basic

/-!
# Operations on deals

The ten operations that a client performs in a session.  An operation with a
ticket is checked first: one that breaks a rule is never sent.

**Results.** An operation sends at most one request, and the request is a
function of the client and the operation alone.  In its headers the tokens of the session
are the last.
-/

namespace DealDesk
namespace Gateway

open Json

/-- The ten operations of the trading client: what it asks for. -/
inductive Operation where
  | openPositions
  | openPosition (dealId : String)
  | createPosition (r : Opening)
  | closePosition (r : Closing)
  | updatePosition (dealId : String) (r : Amendment)
  | workingOrders
  | createWorkingOrder (r : Placement)
  | updateWorkingOrder (dealId : String) (r : Revision)
  | deleteWorkingOrder (dealId : String)
  | dealConfirmation (dealReference : String)

namespace Operation

def method : Operation → Method
  | .openPositions => .get
  | .openPosition _ => .get
  | .createPosition _ => .post
  | .closePosition _ => .post
  | .updatePosition _ _ => .put
  | .workingOrders => .get
  | .createWorkingOrder _ => .post
  | .updateWorkingOrder _ _ => .put
  | .deleteWorkingOrder _ => .delete
  | .dealConfirmation _ => .get

/-- The path behind the URL of the gateway. -/
def path : Operation → String
  | .openPositions => "/gateway/deal/positions"
  | .openPosition id => "/gateway/deal/positions/" ++ id
  | .createPosition _ => "/gateway/deal/positions/otc"
  | .closePosition _ => "/gateway/deal/positions/otc"
  | .updatePosition id _ => "/gateway/deal/positions/otc/" ++ id
  | .workingOrders => "/gateway/deal/workingorders"
  | .createWorkingOrder _ => "/gateway/deal/workingorders/otc"
  | .updateWorkingOrder id _ => "/gateway/deal/workingorders/otc/" ++ id
  | .deleteWorkingOrder id => "/gateway/deal/workingorders/otc/" ++ id
  | .dealConfirmation reference => "/gateway/deal/confirms/" ++ reference

/-- The version of the endpoint. -/
def version : Operation → Nat
  | .closePosition _ => 1
  | .dealConfirmation _ => 1
  | _ => 2

/-- The request that the operation carries. -/
def ticket : Operation → Option Ticket
  | .createPosition r => some (.opening r)
  | .closePosition r => some (.closing r)
  | .updatePosition _ r => some (.amendment r)
  | .createWorkingOrder r => some (.placement r)
  | .updateWorkingOrder _ r => some (.revision r)
  | _ => none

/-- The gateway takes the body of a closing only with another method, which tells what is meant. -/
def overrides : Operation → List Header
  | .closePosition _ => [Header.plain Header.methodName Method.delete.name]
  | _ => []

end Operation

/-- What an operation gives. -/
inductive Answer where
  | portfolio (p : Portfolio)
  | holding (h : Holding)
  | orderBook (b : OrderBook)
  | receipt (r : Receipt)
  | confirmation (c : Confirmation)

namespace Answer

/-- The document of an answer. -/
def document : Answer → Doc
  | .portfolio p => Portfolio.codec.write p
  | .holding h => Holding.codec.write h
  | .orderBook b => OrderBook.codec.write b
  | .receipt r => Receipt.codec.write r
  | .confirmation c => Confirmation.codec.write c

/-- The answer to an operation from what became of its request. -/
def ofOutcome (op : Operation) (outcome : Outcome) : Except RequestFailure Answer :=
  match op with
  | .openPositions => (RequestFailure.content Portfolio.codec outcome).map portfolio
  | .openPosition _ => (RequestFailure.content Holding.codec outcome).map holding
  | .workingOrders => (RequestFailure.content OrderBook.codec outcome).map orderBook
  | .dealConfirmation _ => (RequestFailure.content Confirmation.codec outcome).map confirmation
  | _ => (RequestFailure.content Receipt.codec outcome).map receipt

end Answer

/-- Why an operation failed. -/
inductive OperationFailure where
  /-- The ticket breaks rules, and nothing was sent. -/
  | invalid (e : Invalid)
  | request (e : RequestFailure)

namespace OperationFailure

def message : OperationFailure → String
  | .invalid e => e.message
  | .request e => e.message

def chain : OperationFailure → List String
  | .invalid e => [e.message]
  | .request e => e.chain

end OperationFailure

/-- The trading client: one who deals in a session. -/
structure Client where
  /-- The URL of the gateway, with no slash at its end. -/
  baseUrl : String
  apiKey : String
  session : Session

namespace Client

/-- A client of the gateway at a URL. -/
def ofUrl (url apiKey : String) (session : Session) : Client :=
  ⟨trimmedUrl url, apiKey, session⟩

/-- The same client in another session. -/
def withSession (c : Client) (session : Session) : Client :=
  { c with session }

/-- What is shown of a client in diagnostics: no secret. -/
def diagnostic (c : Client) : String :=
  "TradingClient \x7b base_url: " ++ Text.quoted c.baseUrl ++ ", session_expiry: "
    ++ c.session.expiry.stamp ++ ", .. \x7d"

end Client

/-- The tokens of a session as headers. -/
def tokenHeaders (s : Session) : Except TransportFault (List Header) :=
  if !Header.isValue s.clientToken then .error (.invalidHeader Header.clientTokenName)
  else if !Header.isValue s.securityToken then
    .error (.invalidHeader Header.securityTokenName)
  else
    .ok [Header.secret Header.clientTokenName s.clientToken,
      Header.secret Header.securityTokenName s.securityToken]

/-- The tokens of a session are put among headers, in the place of others of their names. -/
def applyTokens (s : Session) (headers : List Header) : Except TransportFault (List Header) :=
  (tokenHeaders s).map (List.foldl Header.set headers)

/-- The headers of a request in a session. -/
def sessionHeaders (apiKey : String) (version : Nat) (s : Session) :
    Except TransportFault (List Header) :=
  match standardHeaders apiKey version with
  | .error fault => .error fault
  | .ok standard => applyTokens s standard

section Tokens

theorem toLower_cst : ("cst" : String).toLower = "cst" := by decide +kernel

theorem toLower_xst : ("x-security-token" : String).toLower = "x-security-token" := by
  decide +kernel

theorem names_of_standardHeaders
    {apiKey : String} {version : Nat} {headers : List Header}
    (h : standardHeaders apiKey version = .ok headers) :
    headers.map (fun x => x.name.toLower)
      = ["content-type", "accept", "version", "x-ig-api-key"] := by
  rw [standardHeaders] at h
  cases hkey : Header.isValue apiKey with
  | false =>
      rw [hkey] at h
      cases h
  | true =>
      rw [hkey] at h
      cases h
      change [("content-type" : String).toLower, ("accept" : String).toLower,
        ("version" : String).toLower, ("x-ig-api-key" : String).toLower] = _
      decide +kernel

/-- Two tokens go behind headers that have none yet. -/
theorem set_tokens
    {standard : List Header}
    (hnames : standard.map (fun x => x.name.toLower)
      = ["content-type", "accept", "version", "x-ig-api-key"])
    (client security : String) :
    [Header.secret "cst" client, Header.secret "x-security-token" security].foldl Header.set
        standard
      = standard ++ [Header.secret "cst" client, Header.secret "x-security-token" security] := by
  have hcst : Header.set standard (Header.secret "cst" client)
      = standard ++ [Header.secret "cst" client] :=
    Header.set_of_not_mem toLower_cst (by rw [hnames]; decide)
  have hxst : Header.set (standard ++ [Header.secret "cst" client])
        (Header.secret "x-security-token" security)
      = standard ++ [Header.secret "cst" client]
        ++ [Header.secret "x-security-token" security] := by
    refine Header.set_of_not_mem toLower_xst ?_
    rw [List.map_append, hnames]
    change "x-security-token"
      ∉ ["content-type", "accept", "version", "x-ig-api-key"] ++ [("cst" : String).toLower]
    rw [toLower_cst]
    decide
  rw [List.foldl_cons, List.foldl_cons, List.foldl_nil, hcst, hxst, List.append_assoc,
    List.singleton_append]

/-- In the headers of a request the tokens are the last. -/
theorem sessionHeaders_eq
    (apiKey : String) (version : Nat) (s : Session) :
    sessionHeaders apiKey version s
      = match standardHeaders apiKey version with
        | .error fault => .error fault
        | .ok standard => (tokenHeaders s).map (standard ++ ·) := by
  rw [sessionHeaders]
  cases hstandard : standardHeaders apiKey version with
  | error fault => rfl
  | ok standard =>
      have htokens := set_tokens (names_of_standardHeaders hstandard) s.clientToken s.securityToken
      simp only [applyTokens, tokenHeaders]
      cases Header.isValue s.clientToken with
      | false => rfl
      | true =>
          cases Header.isValue s.securityToken with
          | false => rfl
          | true => exact congrArg Except.ok htokens

end Tokens

namespace Operation

/-- The ticket breaks no rule, if there is one. -/
def check (op : Operation) : Except Invalid Unit :=
  match op.ticket with
  | none => .ok ()
  | some t => t.validate

/-- The request of an operation: its ticket is checked first, then its headers. -/
def request (op : Operation) (c : Client) : Except OperationFailure Request :=
  match op.check with
  | .error e => .error (.invalid e)
  | .ok () =>
      match sessionHeaders c.apiKey op.version c.session with
      | .error fault => .error (.request (.transport fault))
      | .ok headers =>
          .ok
            { method := op.method
              url := c.baseUrl ++ op.path
              headers := headers ++ op.overrides
              body := op.ticket.map Ticket.document }

end Operation

namespace Client

/-- An operation on the network. -/
def perform (c : Client) (op : Operation) (n : Network) :
    Except OperationFailure Answer × Network :=
  match op.request c with
  | .error e => (.error e, n)
  | .ok request =>
      let (outcome, n) := n.send request
      match Answer.ofOutcome op outcome with
      | .error e => (.error (.request e), n)
      | .ok answer => (.ok answer, n)

/-- An operation that gives no request sends none, and its failure is the answer. -/
theorem perform_of_error
    {c : Client} {op : Operation} {e : OperationFailure} (h : op.request c = .error e)
    (n : Network) :
    c.perform op n = (.error e, n) := by
  simp [perform, h]

/-- An operation that gives a request sends it and nothing else. -/
theorem sent_perform
    {c : Client} {op : Operation} {r : Request} (h : op.request c = .ok r)
    (n : Network) :
    (c.perform op n).2.sent = n.sent ++ [r] := by
  simp only [perform, h]
  split <;> simp_all [Network.send]

end Client
end Gateway
end DealDesk
