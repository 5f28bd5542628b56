import DealDesk.Gateway.Client
import DealDesk.Proofs.Course
import DealDesk.Proofs.Gateway.Body
import DealDesk.Proofs.Rules.Verdict

/-!
# The course of a client

A client performs one operation after the other and enters new sessions in between.
What an operation may send is laid down by the table of endpoints, with a row for each
of the ten operations.  An operation is checked twice before anything is sent: its
ticket must break no rule, and then the key and the tokens must be fit for headers.

**Results.** `Client.performs`: what one operation answers and sends.
`Seat.operations_in_course`: the same at every point of every course, with the session
that was entered last; the requests go out in the order of the operations, and an
operation that sends nothing can be left out.
-/

namespace DealDesk
namespace Gateway

/-! ### What is sent -/

/-- The text without slashes at its end. -/
def IsBase (url base : String) : Prop :=
  (∃ k, url.toList = base.toList ++ List.replicate k '/') ∧ base.toList.getLast? ≠ some '/'

theorem isBase_trimmedUrl (url : String) : IsBase url (trimmedUrl url) := by
  have hsplit := List.takeWhile_append_dropWhile (p := fun c : Char => decide (c = '/'))
    (l := url.toList.reverse)
  have hslashes : url.toList.reverse.takeWhile (fun c => decide (c = '/'))
      = List.replicate (url.toList.reverse.takeWhile fun c => decide (c = '/')).length '/' := by
    rw [List.eq_replicate_iff]
    refine ⟨rfl, fun c hc => ?_⟩
    simpa using List.all_eq_true.1 List.all_takeWhile c hc
  refine ⟨⟨(url.toList.reverse.takeWhile fun c => decide (c = '/')).length, ?_⟩, ?_⟩
  · rw [trimmedUrl, String.toList_ofList, ← List.reverse_inj, List.reverse_append,
      List.reverse_reverse, List.reverse_replicate, ← hslashes, hsplit]
  · rw [trimmedUrl, String.toList_ofList, List.getLast?_reverse]
    intro h
    have := List.head?_dropWhile_not (fun c : Char => decide (c = '/')) url.toList.reverse
    rw [h] at this
    simp at this

/--
The table of endpoints: the method, the path and the version of each operation, the
header that tells which method is meant, and the ticket that is sent.
-/
inductive Endpoint :
    Operation → Method → String → String → List Header → Option Ticket → Prop
  | openPositions :
      Endpoint .openPositions .get "/gateway/deal/positions" "2" [] none
  | openPosition (dealId : String) :
      Endpoint (.openPosition dealId) .get ("/gateway/deal/positions/" ++ dealId) "2" [] none
  | createPosition (r : Opening) :
      Endpoint (.createPosition r) .post "/gateway/deal/positions/otc" "2" []
        (some (.opening r))
  | closePosition (r : Closing) :
      Endpoint (.closePosition r) .post "/gateway/deal/positions/otc" "1"
        [⟨"_method", "DELETE", false⟩] (some (.closing r))
  | updatePosition (dealId : String) (r : Amendment) :
      Endpoint (.updatePosition dealId r) .put ("/gateway/deal/positions/otc/" ++ dealId) "2" []
        (some (.amendment r))
  | workingOrders :
      Endpoint .workingOrders .get "/gateway/deal/workingorders" "2" [] none
  | createWorkingOrder (r : Placement) :
      Endpoint (.createWorkingOrder r) .post "/gateway/deal/workingorders/otc" "2" []
        (some (.placement r))
  | updateWorkingOrder (dealId : String) (r : Revision) :
      Endpoint (.updateWorkingOrder dealId r) .put
        ("/gateway/deal/workingorders/otc/" ++ dealId) "2" [] (some (.revision r))
  | deleteWorkingOrder (dealId : String) :
      Endpoint (.deleteWorkingOrder dealId) .delete
        ("/gateway/deal/workingorders/otc/" ++ dealId) "2" [] none
  | dealConfirmation (dealReference : String) :
      Endpoint (.dealConfirmation dealReference) .get
        ("/gateway/deal/confirms/" ++ dealReference) "1" [] none

/-- Every operation has its row in the table. -/
theorem Operation.endpoint (op : Operation) :
    Endpoint op op.method op.path (String.ofList (natText op.version)) op.overrides op.ticket := by
  cases op <;> constructor

theorem Endpoint.ticket_eq
    {op : Operation} {method : Method} {path version : String} {tail : List Header}
    {ticket : Option Ticket} (h : Endpoint op method path version tail ticket) :
    op.ticket = ticket := by
  cases h <;> rfl

/-- The operation carries a ticket that breaks rules. -/
def Operation.Breaks (op : Operation) (e : Invalid) : Prop :=
  ∃ method path version tail ticket,
    Endpoint op method path version tail (some ticket)
      ∧ ticket.violations ≠ [] ∧ e = ⟨ticket.ruleSet, ticket.violations⟩

/-- The first of the key and the tokens that is not fit for a header. -/
inductive Client.Unfit (c : Client) : String → Prop
  | apiKey
      (hkey : Header.isValue c.apiKey = false) :
      Unfit c "x-ig-api-key"
  | clientToken
      (hkey : Header.isValue c.apiKey = true)
      (hclient : Header.isValue c.session.clientToken = false) :
      Unfit c "cst"
  | securityToken
      (hkey : Header.isValue c.apiKey = true)
      (hclient : Header.isValue c.session.clientToken = true)
      (hsecurity : Header.isValue c.session.securityToken = false) :
      Unfit c "x-security-token"

/--
The headers of every request of the client, each with its value; the key and the tokens
are marked as secrets.
-/
def Client.headers (c : Client) (version : String) : List Header :=
  [⟨"content-type", "application/json; charset=utf-8", false⟩,
    ⟨"accept", "application/json; charset=utf-8", false⟩,
    ⟨"version", version, false⟩,
    ⟨"x-ig-api-key", c.apiKey, true⟩,
    ⟨"cst", c.session.clientToken, true⟩,
    ⟨"x-security-token", c.session.securityToken, true⟩]

/-- The request is what the table of endpoints lays down for the operation of the client. -/
def Client.Hands (c : Client) (op : Operation) (r : Request) : Prop :=
  ∃ path version tail ticket,
    Endpoint op r.method path version tail ticket
      ∧ r.url = c.baseUrl ++ path
      ∧ r.headers = c.headers version ++ tail
      ∧ r.body = ticket.map (fun t => .obj t.listing)
      ∧ ∀ t, ticket = some t → t.violations = []

/-- What one operation of a client answers, and what becomes of the network. -/
structure Client.Performs
    (c : Client) (op : Operation) (n : Network)
    (answer : Except OperationFailure Answer) (after : Network) : Prop where
  /-- A ticket that breaks rules is refused before anything else is looked at. -/
  invalid : ∀ e, op.Breaks e → answer = .error (.invalid e) ∧ after = n
  /-- A key or token that is not fit for a header comes next. -/
  unfit : (∀ e, ¬ op.Breaks e) → ∀ name, c.Unfit name →
    answer = .error (.request (.transport (.invalidHeader name))) ∧ after = n
  /-- Otherwise one request is handed over, and its outcome decides the answer. -/
  hands : (∀ e, ¬ op.Breaks e) → (∀ name, ¬ c.Unfit name) →
    ∃ r, c.Hands op r ∧ after = { n with sent := n.sent ++ [r] }
      ∧ answer = (Answer.ofOutcome op (n.answer n.sent.length r)).mapError .request
  /-- Nothing is handed over in these cases only. -/
  silent : after.sent = n.sent ↔ (∃ e, op.Breaks e) ∨ ∃ name, c.Unfit name

/-! ### One operation -/

theorem Operation.check_of_breaks
    {op : Operation} {e : Invalid} (h : op.Breaks e) :
    op.check = .error e := by
  obtain ⟨method, path, version, tail, t, hrow, hviolations, rfl⟩ := h
  simp only [check, hrow.ticket_eq, Ticket.validate_eq, if_neg hviolations]

theorem Operation.check_of_not_breaks
    {op : Operation} (h : ∀ e, ¬ op.Breaks e) :
    op.check = .ok () ∧ ∀ t, op.ticket = some t → t.violations = [] := by
  have hrow := op.endpoint
  rw [check]
  cases ht : op.ticket with
  | none => exact ⟨rfl, fun t h => by cases h⟩
  | some t =>
      rw [ht] at hrow
      by_cases hviolations : t.violations = []
      · refine ⟨?_, ?_⟩
        · simp only [Ticket.validate_eq, if_pos hviolations]
        · rintro _ ⟨⟩
          exact hviolations
      · exact absurd ⟨_, _, _, _, t, hrow, hviolations, rfl⟩ (h _)

theorem sessionHeaders_of_unfit
    {c : Client} {name : String} (h : c.Unfit name) (version : Nat) :
    sessionHeaders c.apiKey version c.session = .error (.invalidHeader name) := by
  rw [sessionHeaders_eq]
  cases h with
  | apiKey hkey =>
      rw [standardHeaders, hkey]
      rfl
  | clientToken hkey hclient =>
      rw [standardHeaders, hkey, tokenHeaders, hclient]
      rfl
  | securityToken hkey hclient hsecurity =>
      rw [standardHeaders, hkey, tokenHeaders, hclient, hsecurity]
      rfl

theorem sessionHeaders_of_not_unfit
    {c : Client} (h : ∀ name, ¬ c.Unfit name) (version : Nat) :
    sessionHeaders c.apiKey version c.session
      = .ok (c.headers (String.ofList (natText version))) := by
  cases hkey : Header.isValue c.apiKey with
  | false => exact absurd (.apiKey hkey) (h _)
  | true =>
      cases hclient : Header.isValue c.session.clientToken with
      | false => exact absurd (.clientToken hkey hclient) (h _)
      | true =>
          cases hsecurity : Header.isValue c.session.securityToken with
          | false => exact absurd (.securityToken hkey hclient hsecurity) (h _)
          | true =>
              rw [sessionHeaders_eq, standardHeaders, hkey, tokenHeaders, hclient, hsecurity]
              rfl

namespace Client

variable {c : Client} {op : Operation}

theorem request_of_breaks
    {e : Invalid} (h : op.Breaks e) :
    op.request c = .error (.invalid e) := by
  rw [Operation.request, Operation.check_of_breaks h]

theorem request_of_unfit
    (h : ∀ e, ¬ op.Breaks e) {name : String} (hname : c.Unfit name) :
    op.request c = .error (.request (.transport (.invalidHeader name))) := by
  rw [Operation.request, (Operation.check_of_not_breaks h).1,
    sessionHeaders_of_unfit hname]

theorem exists_request
    (h : ∀ e, ¬ op.Breaks e) (hfit : ∀ name, ¬ c.Unfit name) :
    ∃ r, op.request c = .ok r ∧ c.Hands op r := by
  obtain ⟨hcheck, hvalid⟩ := Operation.check_of_not_breaks h
  refine ⟨
    { method := op.method
      url := c.baseUrl ++ op.path
      headers := c.headers (String.ofList (natText op.version)) ++ op.overrides
      body := op.ticket.map Ticket.document }, ?_,
    op.path, _, op.overrides, op.ticket, op.endpoint, rfl, rfl, ?_, hvalid⟩
  · rw [Operation.request, hcheck, sessionHeaders_of_not_unfit hfit]
  · rw [funext Ticket.document_eq]

/-- An operation that gives a request sends it, and answers by its outcome. -/
theorem perform_of_ok
    {r : Request} (h : op.request c = .ok r) (n : Network) :
    c.perform op n
      = ((Answer.ofOutcome op (n.answer n.sent.length r)).mapError .request,
        { n with sent := n.sent ++ [r] }) := by
  simp only [perform, h, Network.send]
  cases Answer.ofOutcome op (n.answer n.sent.length r) with
  | error e => rfl
  | ok answer => rfl

/-- What one operation answers and sends. -/
theorem performs (c : Client) (op : Operation) (n : Network) :
    c.Performs op n (c.perform op n).1 (c.perform op n).2 where
  invalid e h := by
    rw [perform_of_error (request_of_breaks h)]
    exact ⟨rfl, rfl⟩
  unfit h name hname := by
    rw [perform_of_error (request_of_unfit h hname)]
    exact ⟨rfl, rfl⟩
  hands h hfit := by
    obtain ⟨r, hrequest, hhands⟩ := exists_request h hfit
    rw [perform_of_ok hrequest]
    exact ⟨r, hhands, rfl, rfl⟩
  silent := by
    by_cases hbreaks : ∃ e, op.Breaks e
    · obtain ⟨e, he⟩ := hbreaks
      rw [perform_of_error (request_of_breaks he)]
      exact ⟨fun _ => .inl ⟨e, he⟩, fun _ => rfl⟩
    · have hsound := not_exists.1 hbreaks
      by_cases hunfit : ∃ name, c.Unfit name
      · obtain ⟨name, hname⟩ := hunfit
        rw [perform_of_error (request_of_unfit hsound hname)]
        exact ⟨fun _ => .inr ⟨name, hname⟩, fun _ => rfl⟩
      · obtain ⟨r, hrequest, -⟩ := exists_request hsound (not_exists.1 hunfit)
        rw [perform_of_ok hrequest]
        simp [hbreaks, hunfit]

/-- An operation that sends nothing leaves the network as it is. -/
theorem Performs.idle
    {n after : Network} {answer : Except OperationFailure Answer}
    (h : c.Performs op n answer after) (hsent : after.sent = n.sent) :
    after = n := by
  by_cases hbreaks : ∃ e, op.Breaks e
  · obtain ⟨e, he⟩ := hbreaks
    exact (h.invalid e he).2
  · rcases h.silent.1 hsent with hinvalid | ⟨name, hname⟩
    · exact absurd hinvalid hbreaks
    · exact (h.unfit (not_exists.1 hbreaks) name hname).2

/-- An operation sends at most one request, behind all that was sent before. -/
theorem Performs.sent
    {n after : Network} {answer : Except OperationFailure Answer}
    (h : c.Performs op n answer after) :
    ∃ rs, after.sent = n.sent ++ rs ∧ rs.length ≤ 1 := by
  by_cases hsilent : (∃ e, op.Breaks e) ∨ ∃ name, c.Unfit name
  · exact ⟨[], by simp [h.silent.2 hsilent], by simp⟩
  · rw [not_or, not_exists, not_exists] at hsilent
    obtain ⟨r, -, rfl, -⟩ := h.hands hsilent.1 hsilent.2
    exact ⟨[r], rfl, by simp⟩

end Client

/-! ### Courses -/

structure Seat where
  client : Client
  network : Network

namespace Seat

inductive Act where
  | perform (op : Operation)
  | enter (s : Session)

/-- One act of a client; only an operation is answered. -/
def act (b : Seat) : Act → Option (Except OperationFailure Answer) × Seat
  | .perform op =>
      (some (b.client.perform op b.network).1,
        { b with network := (b.client.perform op b.network).2 })
  | .enter s => (none, { b with client := b.client.withSession s })

/-- A client of the gateway at a URL, at its network. -/
def ofUrl (url apiKey : String) (s : Session) (n : Network) : Seat :=
  ⟨Client.ofUrl url apiKey s, n⟩

/-- The session that was entered last, or the first one. -/
def held (s : Session) : List Act → Session
  | [] => s
  | .perform _ :: r => held s r
  | .enter s' :: r => held s' r

/-- What is handed over at a moment. -/
def handed (m : Course.Moment Seat Act (Option (Except OperationFailure Answer))) :
    List Request :=
  m.after.network.sent.drop m.before.network.sent.length

/-- The client changes in nothing but the session, which is the one it entered last. -/
theorem client_finish
    (b : Seat) (acts : List Act) :
    (Course.finish act b acts).client
      = ⟨b.client.baseUrl, b.client.apiKey, held b.client.session acts⟩ := by
  induction acts generalizing b with
  | nil => rfl
  | cons a r ih =>
      cases a with
      | perform op => exact ih _
      | enter s => exact ih _

/-- At every moment at most one request goes behind all that was sent before. -/
theorem handed_of_mem
    {b : Seat} {acts : List Act}
    {m : Course.Moment Seat Act (Option (Except OperationFailure Answer))}
    (hm : m ∈ Course.moments act b acts) :
    m.after.network.sent = m.before.network.sent ++ handed m ∧ (handed m).length ≤ 1 := by
  have hafter : m.after = (act m.before m.input).2 :=
    (congrArg Prod.snd (Course.step_of_mem hm)).symm
  have hsent : ∃ rs, m.after.network.sent = m.before.network.sent ++ rs ∧ rs.length ≤ 1 := by
    rw [hafter]
    cases m.input with
    | perform op => exact (m.before.client.performs op m.before.network).sent
    | enter s => exact ⟨[], (List.append_nil _).symm, Nat.zero_le 1⟩
  obtain ⟨rs, hrs, hlength⟩ := hsent
  have hhanded : handed m = rs := by
    rw [handed, hrs, List.drop_left]
  rw [hhanded]
  exact ⟨hrs, hlength⟩

/--
Whatever a client did before, an operation is performed with the URL and the key it was
made with and the session it entered last.  The requests of a course go out in the order
of its operations, at most one for each; and an operation that sends nothing can be left
out of a course, with no other moment being changed.
-/
theorem operations_in_course
    (url apiKey : String) (s : Session) (n : Network) :
    ∃ base, IsBase url base
      ∧ (∀ (acts : List Act) (op : Operation),
        (act (Course.finish act (ofUrl url apiKey s n) acts) (.perform op)).2.client
            = ⟨base, apiKey, held s acts⟩
          ∧ ∃ answer,
            (act (Course.finish act (ofUrl url apiKey s n) acts) (.perform op)).1 = some answer
              ∧ Client.Performs ⟨base, apiKey, held s acts⟩ op
                (Course.finish act (ofUrl url apiKey s n) acts).network answer
                (act (Course.finish act (ofUrl url apiKey s n) acts) (.perform op)).2.network)
      ∧ (∀ acts : List Act,
        (Course.finish act (ofUrl url apiKey s n) acts).network.sent
            = n.sent ++ (Course.moments act (ofUrl url apiKey s n) acts).flatMap handed
          ∧ ∀ m ∈ Course.moments act (ofUrl url apiKey s n) acts, (handed m).length ≤ 1)
      ∧ ∀ (acts : List Act) (op : Operation) (more : List Act),
        (Course.finish act (ofUrl url apiKey s n) (acts ++ [.perform op])).network.sent
            = (Course.finish act (ofUrl url apiKey s n) acts).network.sent →
          (Course.moments act (ofUrl url apiKey s n)
              (acts ++ .perform op :: more)).eraseIdx acts.length
            = Course.moments act (ofUrl url apiKey s n) (acts ++ more) := by
  have hclient (acts : List Act) :
      (Course.finish act (ofUrl url apiKey s n) acts).client
        = ⟨trimmedUrl url, apiKey, held s acts⟩ := client_finish _ acts
  refine ⟨trimmedUrl url, isBase_trimmedUrl url, ?_, ?_, ?_⟩
  · intro acts op
    refine ⟨hclient acts, _, rfl, ?_⟩
    rw [← hclient acts]
    exact Client.performs _ op _
  · intro acts
    refine ⟨?_, fun m hm => (handed_of_mem hm).2⟩
    exact Course.finish_eq_append (fun b : Seat => b.network.sent) handed
      fun m hm => (handed_of_mem hm).1
  · intro acts op more hsent
    refine Course.moments_eraseIdx_of_idle ?_
    rw [Course.finish_append] at hsent
    have hidle := (Client.performs _ op _).idle hsent
    simp only [act, hidle]

end Seat
end Gateway
end DealDesk
