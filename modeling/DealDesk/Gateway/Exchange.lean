import DealDesk.Gateway.Header
import DealDesk.Gateway.Url
import DealDesk.Json.Record
import DealDesk.Number.Digit

/-!
# Requests, replies and the network between

A network answers each request by its place in the row of all requests and by
what it asks for.  A scripted network is one whose answers are a list; one that
cannot be reached answers every request with the same fault.  What was sent is
kept in order.

**Results.** Sending hands over exactly one request.
-/

namespace DealDesk
namespace Gateway

open Json

/-- What a request does with the resource it names. -/
inductive Method where
  | get
  | post
  | put
  | delete
deriving DecidableEq

namespace Method

/-- The method in capitals. -/
def name : Method → String
  | .get => "GET"
  | .post => "POST"
  | .put => "PUT"
  | .delete => "DELETE"

end Method

/-- An HTTP request: what is sent to the gateway. -/
structure Request where
  method : Method
  url : String
  headers : List Header
  body : Option Doc

/-- An HTTP response: what the gateway answers. -/
structure Reply where
  status : Nat
  headers : List Header
  body : String

namespace Reply

/-- The gateway did what was asked for. -/
def isSuccess (r : Reply) : Bool :=
  200 ≤ r.status && r.status < 300

end Reply

/-- A transport error: why a request got no reply. -/
inductive TransportFault where
  /-- A value is not the text of a header. -/
  | invalidHeader (name : String)
  /-- A text is no URL, since it names no scheme. -/
  | noScheme
  /-- No connection could be made for the URL. -/
  | unreachable (url : String)
  | other (text : String)
deriving DecidableEq

namespace TransportFault

/-- What a fault came from, from the outside in. -/
def causes : TransportFault → List String
  | .noScheme => ["builder error", "relative URL without a base"]
  | .unreachable url =>
      ["error sending request for url (" ++ url ++ ")", "client error (Connect)",
        "tcp connect error", "Network is unreachable (os error 101)"]
  | _ => []

def message : TransportFault → String
  | .invalidHeader name => "Invalid " ++ name ++ " header: failed to parse header value"
  | .noScheme => "HTTP error: builder error"
  | .unreachable url => "HTTP error: error sending request for url (" ++ url ++ ")"
  | .other text => text

def chain (fault : TransportFault) : List String :=
  fault.message :: fault.causes

end TransportFault

/-- What becomes of a request on its way. -/
abbrev Outcome := Except TransportFault Reply

/-- The transport: the way to the gateway, with what has been sent on it so far. -/
structure Network where
  /-- The outcome of a request, which so many went before. -/
  answer : Nat → Request → Outcome
  sent : List Request

namespace Network

/-- The outcomes of a list in their order, and after them always the same fault. -/
def scripted (script : List Outcome) (silence : TransportFault) : Network where
  answer n _ := (script[n]?).getD (.error silence)
  sent := []

/-- No request gets through. -/
def unreachable : Network where
  answer _ r :=
    match Url.settled? r.url with
    | none => .error .noScheme
    | some url => .error (.unreachable url)
  sent := []

/-- A request is sent and gets its outcome. -/
def send (n : Network) (r : Request) : Outcome × Network :=
  (n.answer n.sent.length r, { n with sent := n.sent ++ [r] })

end Network

/-- The headers of every request: documents both ways, a version and the key of the application. -/
def standardHeaders (apiKey : String) (version : Nat) : Except TransportFault (List Header) :=
  if Header.isValue apiKey then
    .ok [Header.plain "content-type" Header.documentKind,
      Header.plain "accept" Header.documentKind,
      Header.plain Header.versionName (String.ofList (natText version)),
      Header.secret Header.apiKeyName apiKey]
  else .error (.invalidHeader Header.apiKeyName)

/-- The URL of a gateway without slashes at its end. -/
def trimmedUrl (url : String) : String :=
  String.ofList (url.toList.reverse.dropWhile (· = '/')).reverse

end Gateway
end DealDesk
