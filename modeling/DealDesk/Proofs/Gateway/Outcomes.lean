import DealDesk.Proofs.Gateway.Address
import DealDesk.Proofs.Gateway.Desk
import DealDesk.Proofs.Gateway.Leaving

/-!
# What is said of outcomes

A message that is sent comes to one of four ends: there is no reply, the reply tells of a
failure, it tells of a success but cannot be used, or it gives what was asked for.  Whoever
sent the message says which, and the status is told exactly if the reply was a failure.  What
a reply has to hold, and what is said if it does not, differs: an operation reads one kind of
document, a logout reads nothing, and a login looks for two tokens, a document and an expiry.

**Results.** `RequestFailure.named_iff`: the failure that a status stands for.
`RequestFailure.reported`, `Access.reported`: what operations and logouts, and what logins
say of an outcome.  `outcomes_reported`: the same of everything that a client or a desk sends.
-/

namespace DealDesk
namespace Gateway

open Json

/-! ### Terms of a report -/

/-- The gateway did what was asked for. -/
def Reply.Succeeds (reply : Reply) : Prop :=
  200 ≤ reply.status ∧ reply.status < 300

instance (reply : Reply) : Decidable reply.Succeeds :=
  inferInstanceAs (Decidable (200 ≤ reply.status ∧ reply.status < 300))

/-- How the replies to a message are taken. -/
structure Terms (ε α : Type) where
  /-- The status that a failure tells of. -/
  status : ε → Option Nat
  /-- The failure if there is no reply. -/
  lost : TransportFault → ε
  /-- The failure that a reply stands for which is no success. -/
  Refuses : Reply → ε → Prop
  /-- What a success gives. -/
  Gives : Reply → α → Prop
  /-- The failure that a success stands for which gives nothing. -/
  Baffles : Reply → ε → Prop

/-- The answer says what became of the message. -/
structure Terms.Reported
    {ε α : Type} (t : Terms ε α) (outcome : Outcome) (answer : Except ε α) : Prop where
  gives_iff : ∀ v, answer = .ok v ↔
    ∃ reply, outcome = .ok reply ∧ reply.Succeeds ∧ t.Gives reply v
  lost : ∀ fault, outcome = .error fault →
    answer = .error (t.lost fault) ∧ t.status (t.lost fault) = none
  refused : ∀ reply, outcome = .ok reply → ¬ reply.Succeeds →
    ∃ e, answer = .error e ∧ t.Refuses reply e ∧ t.status e = some reply.status
  baffled : ∀ reply, outcome = .ok reply → reply.Succeeds → (∀ v, ¬ t.Gives reply v) →
    ∃ e, answer = .error e ∧ t.Baffles reply e ∧ t.status e = none

/-! ### Operations and logouts -/

namespace RequestFailure

/-- The failure that a status and a body stand for. -/
inductive Named : Nat → String → RequestFailure → Prop
  | unauthorized (body : String) :
      Named 401 body .unauthorized
  | accessDenied (body : String) :
      Named 403 body (.accessDenied (excerpt body))
  | notFound (body : String) :
      Named 404 body (.notFound (excerpt body))
  | rateLimited (body : String) :
      Named 429 body .rateLimited
  | server (status : Nat) (body : String)
      (hserver : 500 ≤ status ∧ status ≤ 599) :
      Named status body (.server status (excerpt body))
  | unexpected (status : Nat) (body : String)
      (hnamed : status ∉ [401, 403, 404, 429])
      (hserver : ¬ (500 ≤ status ∧ status ≤ 599)) :
      Named status body (.unexpected status (excerpt body))

theorem named_ofStatus (status : Nat) (body : String) :
    Named status body (ofStatus status body) := by
  unfold ofStatus
  split
  case isTrue h => exact h ▸ .unauthorized body
  split
  case isTrue h => exact h ▸ .accessDenied body
  split
  case isTrue h => exact h ▸ .notFound body
  split
  case isTrue h => exact h ▸ .rateLimited body
  split
  case isTrue h => exact .server status body h
  exact .unexpected status body (by simp [*]) ‹_›

/-- A status and a body stand for one failure. -/
theorem named_iff {status : Nat} {body : String} {e : RequestFailure} :
    Named status body e ↔ e = ofStatus status body := by
  refine ⟨fun h => ?_, fun h => h ▸ named_ofStatus status body⟩
  cases h with
  | unauthorized => rfl
  | accessDenied => rfl
  | notFound => rfl
  | rateLimited => rfl
  | server _ _ hserver =>
      have hnamed : status ≠ 401 ∧ status ≠ 403 ∧ status ≠ 404 ∧ status ≠ 429 := by omega
      simp [ofStatus, hnamed, hserver]
  | unexpected _ _ hnamed hserver =>
      simp only [List.mem_cons, List.not_mem_nil, or_false, not_or] at hnamed
      simp [ofStatus, hnamed, hserver]

/-- A reply is taken by what its body is read as. -/
def terms {α : Type} (read : String → Except Json.Fault α) : Terms RequestFailure α where
  status := status
  lost := .transport
  Refuses reply e := Named reply.status reply.body e
  Gives reply v := read reply.body = .ok v
  Baffles reply e := ∃ fault, read reply.body = .error fault ∧ e = .invalidResponse fault

/-- What is read from the reply, if there is one and it is a success. -/
def taken {α : Type} (read : String → Except Json.Fault α) (outcome : Outcome) :
    Except RequestFailure α :=
  match body outcome with
  | .error e => .error e
  | .ok text => (read text).mapError .invalidResponse

theorem taken_of_refused
    {α : Type} (read : String → Except Json.Fault α) {reply : Reply} (h : ¬ reply.Succeeds) :
    taken read (.ok reply) = .error (ofStatus reply.status reply.body) := by
  have hsuccess : reply.isSuccess = false := by
    rw [← Bool.not_eq_true, Access.isSuccess_iff]
    exact h
  simp [taken, body, hsuccess]

theorem taken_of_succeeds
    {α : Type} (read : String → Except Json.Fault α) {reply : Reply} (h : reply.Succeeds) :
    taken read (.ok reply) = (read reply.body).mapError .invalidResponse := by
  have hsuccess : reply.isSuccess = true := (Access.isSuccess_iff reply).2 h
  simp [taken, body, hsuccess]

/-- What is taken from an outcome says what the outcome was. -/
theorem reported
    {α : Type} (read : String → Except Json.Fault α) (outcome : Outcome) :
    (terms read).Reported outcome (taken read outcome) where
  gives_iff v := by
    constructor
    · intro h
      cases outcome with
      | error fault => cases h
      | ok reply =>
          by_cases hstatus : reply.Succeeds
          · rw [taken_of_succeeds read hstatus] at h
            refine ⟨reply, rfl, hstatus, ?_⟩
            cases hread : read reply.body with
            | error fault =>
                rw [hread] at h
                cases h
            | ok w =>
                rw [hread] at h
                cases h
                exact hread
          · rw [taken_of_refused read hstatus] at h
            cases h
    · rintro ⟨reply, rfl, hstatus, hread⟩
      have hbody : read reply.body = .ok v := hread
      rw [taken_of_succeeds read hstatus, hbody]
      rfl
  lost := by
    rintro fault rfl
    exact ⟨rfl, rfl⟩
  refused := by
    rintro reply rfl hstatus
    exact ⟨_, taken_of_refused read hstatus, named_ofStatus _ _, status_ofStatus _ _⟩
  baffled := by
    rintro reply rfl hstatus hnone
    cases hread : read reply.body with
    | error fault =>
        refine ⟨.invalidResponse fault, ?_, ⟨fault, hread, rfl⟩, rfl⟩
        rw [taken_of_succeeds read hstatus, hread]
        rfl
    | ok v => exact absurd hread (hnone v)

end RequestFailure

/-- What the body of a reply to an operation is read as. -/
def Operation.read : Operation → String → Except Json.Fault Answer
  | .openPositions, text => (Portfolio.codec.ofText text).map .portfolio
  | .openPosition _, text => (Holding.codec.ofText text).map .holding
  | .workingOrders, text => (OrderBook.codec.ofText text).map .orderBook
  | .dealConfirmation _, text => (Confirmation.codec.ofText text).map .confirmation
  | .createPosition _, text
  | .closePosition _, text
  | .updatePosition _ _, text
  | .createWorkingOrder _, text
  | .updateWorkingOrder _ _, text
  | .deleteWorkingOrder _, text => (Receipt.codec.ofText text).map .receipt

theorem RequestFailure.content_map
    {α β : Type} (c : Codec α) (f : α → β) (outcome : Outcome) :
    (content c outcome).map f = taken (fun text => (c.ofText text).map f) outcome := by
  rw [content, taken]
  cases body outcome with
  | error e => rfl
  | ok text =>
      dsimp only
      cases c.ofText text with
      | error fault => rfl
      | ok v => rfl

theorem Answer.ofOutcome_eq
    (op : Operation) (outcome : Outcome) :
    ofOutcome op outcome = RequestFailure.taken op.read outcome := by
  cases op <;> exact RequestFailure.content_map _ _ outcome

/-! ### Logins -/

namespace Access

/--
What is said of a successful reply to a login that gives no session.  The messages of the last
two both call it an invalid response.
-/
inductive Baffled (a : Access) (now : Instant) (reply : Reply) : LoginFailure → Prop
  | clientToken
      (htoken : Header.find? reply.headers "cst" = none) :
      Baffled a now reply (.missingToken "CST")
  | securityToken
      (clientToken : String)
      (hclient : Header.find? reply.headers "cst" = some clientToken)
      (htoken : Header.find? reply.headers "x-security-token" = none) :
      Baffled a now reply (.missingToken "X-SECURITY-TOKEN")
  | body
      (clientToken securityToken : String)
      (fault : Json.Fault)
      (hadmits : Admits reply clientToken securityToken)
      (hbody : Account.codec.ofText reply.body = .error fault) :
      Baffled a now reply (.invalidResponse fault)
  | expiry
      (clientToken securityToken : String)
      (account : Account)
      (hadmits : Admits reply clientToken securityToken)
      (hbody : Account.codec.ofText reply.body = .ok account)
      (hexpiry : now.add? a.lifetime = none) :
      Baffled a now reply (.endlessSession a.lifetime now)

/-- How the reply to a login is taken. -/
def terms (a : Access) (now : Instant) : Terms LoginFailure Session where
  status := LoginFailure.status
  lost := .transport
  Refuses reply e := e = .rejected reply.status (excerpt reply.body)
  Gives reply s :=
    Admits reply s.clientToken s.securityToken
      ∧ Account.codec.ofText reply.body = .ok s.account
      ∧ now.add? a.lifetime = some s.expiry
  Baffles := a.Baffled now

/-- What a login answers says what became of its message. -/
theorem reported
    {a : Access} (hkey : Header.isValue a.apiKey = true) (now : Instant) (n : Network) :
    (a.terms now).Reported (n.answer n.sent.length a.loginMessage) (a.login now n).1 where
  gives_iff s := by
    rw [login_eq_ok_iff]
    constructor
    · rintro ⟨reply, hreply, hadmits, hbody, hexpiry⟩
      exact ⟨reply, hreply.2, hadmits.success, hadmits, hbody, hexpiry⟩
    · rintro ⟨reply, hanswer, -, hadmits, hbody, hexpiry⟩
      exact ⟨reply, ⟨hkey, hanswer⟩, hadmits, hbody, hexpiry⟩
  lost fault hanswer := ⟨login_of_fails (.transport fault hkey hanswer), rfl⟩
  refused reply hanswer hstatus :=
    ⟨_, login_of_fails (.status reply ⟨hkey, hanswer⟩ hstatus), rfl, rfl⟩
  baffled reply hanswer hstatus hnone := by
    -- Of the ways to fail, those with no reply or another status are out.
    have hsame {reply' : Reply} (h : a.Answered n reply') : reply' = reply :=
      Except.ok.inj (h.2.symm.trans hanswer)
    rcases a.loginFails_or_loginGives now n with ⟨e, hfails⟩ | ⟨s, reply', hreply, hgives⟩
    · refine ⟨e, login_of_fails hfails, ?_⟩
      cases hfails with
      | header hunfit => exact absurd (hkey.symm.trans hunfit) (by decide)
      | transport fault _ hfault => cases hfault.symm.trans hanswer
      | status reply' hreply hrefused => exact absurd (hsame hreply ▸ hstatus) hrefused
      | clientToken reply' hreply _ htoken =>
          cases hsame hreply
          exact ⟨.clientToken htoken, rfl⟩
      | securityToken reply' clientToken hreply _ hclient htoken =>
          cases hsame hreply
          exact ⟨.securityToken clientToken hclient htoken, rfl⟩
      | body reply' _ _ fault hreply hadmits hbody =>
          cases hsame hreply
          exact ⟨.body _ _ fault hadmits hbody, rfl⟩
      | expiry reply' _ _ account hreply hadmits hbody hexpiry =>
          cases hsame hreply
          exact ⟨.expiry _ _ account hadmits hbody hexpiry, rfl⟩
    · cases hsame hreply
      exact absurd hgives (hnone s)

end Access

/-! ### All messages -/

namespace Desk

theorem clearVault_network (d : Desk) (n : Network) :
    ({ d with network := n } : Desk).clearVault
      = (d.clearVault.1, { d.clearVault.2 with network := n }) := by
  cases d with
  | mk access network vault margin => cases vault <;> rfl

/-- A logout clears the vault first, and then says what became of its message. -/
theorem logout_of_request
    {d : Desk} {s : Session} {r : Request} (h : d.access.logoutRequest s = .ok r) :
    (d.logout s).1
      = match d.clearVault.1 with
        | .error e => .error (.vault e)
        | .ok () =>
            (RequestFailure.taken (fun _ => .ok ()) (d.network.answer d.network.sent.length r)
              ).mapError fun e => .operation (.request e) := by
  simp only [logout, h, Network.send, clearVault_network]
  cases d.clearVault.1 with
  | error e => rfl
  | ok u =>
      simp only [RequestFailure.taken]
      cases RequestFailure.body (d.network.answer d.network.sent.length r) with
      | error e => rfl
      | ok text => rfl

end Desk

/-- A client says what became of the message of an operation. -/
theorem Client.reported
    {c : Client} {op : Operation} {r : Request} (h : op.request c = .ok r) (n : Network) :
    ∃ answer, (c.perform op n).1 = answer.mapError .request
      ∧ (RequestFailure.terms op.read).Reported (n.answer n.sent.length r) answer := by
  refine ⟨_, ?_, RequestFailure.reported op.read _⟩
  rw [perform_of_ok h, Answer.ofOutcome_eq]

/--
Everything that is sent is reported on.  What an operation answers, or a login, or a logout
after which the vault could be cleared, is what was asked for exactly if the reply is a success
and has all that is looked for.  Otherwise it names what was wrong: that there was no reply, or
the status with the excerpt of the body, or what a successful reply does not have.  A logout
after which the vault could not be cleared tells of the vault alone.
-/
theorem outcomes_reported :
    (∀ (c : Client) (op : Operation) (n : Network) (r : Request), op.request c = .ok r →
      ∃ answer, (c.perform op n).1 = answer.mapError .request
        ∧ (RequestFailure.terms op.read).Reported (n.answer n.sent.length r) answer)
      ∧ (∀ (d : Desk) (now : Instant) (r : Request), d.access.loginRequest = .ok r →
        (d.access.terms now).Reported (d.network.answer d.network.sent.length r)
          (d.login now).1)
      ∧ ∀ (d : Desk) (s : Session) (r : Request), d.access.logoutRequest s = .ok r →
        (∀ e, d.clearVault.1 = .error e → (d.logout s).1 = .error (.vault e))
          ∧ (d.clearVault.1 = .ok () →
            ∃ answer, (d.logout s).1 = answer.mapError (fun e => .operation (.request e))
              ∧ (RequestFailure.terms fun _ => .ok ()).Reported
                (d.network.answer d.network.sent.length r) answer) := by
  refine ⟨fun c op n r h => Client.reported h n, fun d now r h => ?_, fun d s r h => ⟨?_, ?_⟩⟩
  · cases hkey : Header.isValue d.access.apiKey with
    | false =>
        rw [Access.loginRequest_of_not_isValue hkey] at h
        cases h
    | true =>
        rw [Access.loginRequest_of_isValue hkey] at h
        cases h
        exact Access.reported hkey now d.network
  · intro e he
    rw [Desk.logout_of_request h, he]
  · intro hcleared
    refine ⟨_, ?_, RequestFailure.reported (fun _ => .ok ()) _⟩
    rw [Desk.logout_of_request h, hcleared]

/-- A desk without a vault that gets one reply. -/
def Desk.answeredBy (reply : Reply) : Desk where
  access := .ofUrl "https://gateway" "key" "name" "secret" Access.defaultLifetime
  network := .scripted [.ok reply] .noScheme
  vault := none
  margin := Vault.defaultMargin

/--
A deal that nobody knows, an order that is taken back, a login without tokens, and a logout at
a gateway that is out of order.
-/
theorem outcomes_reported_specimen :
    (∃ e, (Client.specimen.perform (.dealConfirmation "A")
          (Desk.answeredBy ⟨404, [], "gone"⟩).network).1 = .error (.request e)
        ∧ e.status = some 404)
      ∧ (Client.specimen.perform (.deleteWorkingOrder "A")
          (Desk.answeredBy ⟨201, [], "\x7b\"dealReference\":\"B\"\x7d"⟩).network).1
        = .ok (.receipt ⟨"B"⟩)
      ∧ (∃ e, ((Desk.answeredBy ⟨200, [], ""⟩).login Scene.specimen.now).1 = .error e
        ∧ e.status = none)
      ∧ ∃ e, ((Desk.answeredBy ⟨503, [], ""⟩).logout Client.specimen.session).1
            = .error (.operation (.request e))
        ∧ e.status = some 503 := by
  refine ⟨?_, ?_, ?_, ?_⟩
  · obtain ⟨r, hrequest⟩ : ∃ r, Operation.request (.dealConfirmation "A") Client.specimen
        = .ok r := ⟨_, rfl⟩
    obtain ⟨answer, hanswer, hreport⟩ := outcomes_reported.1 Client.specimen _
      (Desk.answeredBy ⟨404, [], "gone"⟩).network r hrequest
    obtain ⟨e, he, -, hstatus⟩ := hreport.refused _ rfl (by decide)
    exact ⟨e, by rw [hanswer, he]; rfl, hstatus⟩
  · obtain ⟨r, hrequest⟩ : ∃ r, Operation.request (.deleteWorkingOrder "A") Client.specimen
        = .ok r := ⟨_, rfl⟩
    obtain ⟨answer, hanswer, hreport⟩ := outcomes_reported.1 Client.specimen _
      (Desk.answeredBy ⟨201, [], "\x7b\"dealReference\":\"B\"\x7d"⟩).network r hrequest
    have hread : (Operation.deleteWorkingOrder "A").read "\x7b\"dealReference\":\"B\"\x7d"
        = .ok (.receipt ⟨"B"⟩) := by
      have hreceipt : (Receipt.codec.ofText "\x7b\"dealReference\":\"B\"\x7d").toOption
          = some ⟨"B"⟩ := by
        decide +kernel
      rw [Operation.read]
      cases hread : Receipt.codec.ofText "\x7b\"dealReference\":\"B\"\x7d" with
      | error fault =>
          rw [hread] at hreceipt
          cases hreceipt
      | ok receipt =>
          rw [hread] at hreceipt
          cases hreceipt
          rfl
    rw [hanswer, (hreport.gives_iff _).2 ⟨_, rfl, by decide, hread⟩]
    rfl
  · obtain ⟨r, hrequest⟩ : ∃ r, (Desk.answeredBy ⟨200, [], ""⟩).access.loginRequest
        = .ok r := ⟨_, rfl⟩
    have hreport := outcomes_reported.2.1 _ Scene.specimen.now r hrequest
    obtain ⟨e, he, -, hstatus⟩ := hreport.baffled _ rfl (by decide)
      fun s hs => by cases hs.1.client
    exact ⟨e, he, hstatus⟩
  · obtain ⟨r, hrequest⟩ : ∃ r, (Desk.answeredBy ⟨503, [], ""⟩).access.logoutRequest
        Client.specimen.session = .ok r := ⟨_, rfl⟩
    obtain ⟨answer, hanswer, hreport⟩ := (outcomes_reported.2.2 _ _ r hrequest).2 rfl
    obtain ⟨e, he, -, hstatus⟩ := hreport.refused _ rfl (by decide)
    exact ⟨e, by rw [hanswer, he]; rfl, hstatus⟩

end Gateway
end DealDesk
