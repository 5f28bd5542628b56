import DealDesk.Proofs.Gateway.Desk
import Mathlib.Data.List.Forall2

/-!
# What a password is seen in

The password of an access goes into the messages of its logins.  Two desks that differ in
nothing but their passwords are run side by side, over networks that answer by the place of a
message and not by its password.  After every act they still differ in nothing but their
passwords and the messages of their logins.

**Results.** `Desk.authenticate_twin`, `Desk.login_twin`, `Desk.logout_twin`,
`Desk.clearVault_twin` and `Desk.keep_twin`: each operation of two such desks.
`Scene.password_in_logins_alone`: their answers, their vaults and their messages in every
course of acts.
-/

namespace DealDesk
namespace Gateway

open Json

/--
Messages that are the same up to the password: two of a login that differ in its value alone,
or twice the same one that has no body.
-/
inductive Request.Twins (p q : String) : Request → Request → Prop
  | login (method : Method) (url : String) (headers : List Header) (identifier : String) :
      Twins p q
        ⟨method, url, headers, some (.obj [Doc.member "identifier" (.str (some identifier)),
          Doc.member "password" (.str (some p))])⟩
        ⟨method, url, headers, some (.obj [Doc.member "identifier" (.str (some identifier)),
          Doc.member "password" (.str (some q))])⟩
  | bare (r : Request) (hbody : r.body = none) : Twins p q r r

/-- Messages that are the same up to the password get the same outcome. -/
def Network.Overlooks (n : Network) (p q : String) : Prop :=
  ∀ i r r', Request.Twins p q r r' → n.answer i r = n.answer i r'

theorem Network.overlooks_scripted
    (script : List Outcome) (silence : TransportFault) (p q : String) :
    (Network.scripted script silence).Overlooks p q :=
  fun _ _ _ _ => rfl

def Access.withPassword (a : Access) (password : String) : Access :=
  { a with password }

theorem Access.twins_loginMessage
    (a : Access) (p q : String) :
    Request.Twins p q (a.withPassword p).loginMessage (a.withPassword q).loginMessage :=
  .login _ _ _ a.identifier

theorem Access.body_of_logoutRequest
    {a : Access} {s : Session} {r : Request} (h : a.logoutRequest s = .ok r) :
    r.body = none := by
  rw [logoutRequest] at h
  cases hheaders : sessionHeaders a.apiKey 1 s with
  | error fault =>
      rw [hheaders] at h
      cases h
  | ok headers =>
      rw [hheaders] at h
      cases h
      rfl

namespace Desk

/-- The desk with a password, and with messages that it has sent. -/
def under (d : Desk) (password : String) (sent : List Request) : Desk :=
  { d with
    access := d.access.withPassword password
    network := { d.network with sent } }

/-- The desks differ in nothing but their passwords and the messages of their logins. -/
def Twins (p q : String) (d d' : Desk) : Prop :=
  ∃ (base : Desk) (sent sent' : List Request),
    base.network.Overlooks p q ∧ List.Forall₂ (Request.Twins p q) sent sent'
      ∧ d = base.under p sent ∧ d' = base.under q sent'

section Under

variable (d : Desk) (password : String) (sent : List Request)

theorem keep_under (s : Session) :
    (d.under password sent).keep s = ((d.keep s).1, (d.keep s).2.under password sent) := by
  obtain ⟨access, network, vault, margin⟩ := d
  cases vault <;> rfl

theorem clearVault_under :
    (d.under password sent).clearVault
      = (d.clearVault.1, d.clearVault.2.under password sent) := by
  obtain ⟨access, network, vault, margin⟩ := d
  cases vault <;> rfl

/-- A login whose key is no header does nothing. -/
theorem login_under_of_not_isValue
    (h : Header.isValue d.access.apiKey = false) (now : Instant) :
    (d.under password sent).login now
      = (.error (.transport (.invalidHeader Header.apiKeyName)), d.under password sent) := by
  have hrequest : (d.under password sent).access.loginRequest
      = .error (.invalidHeader Header.apiKeyName) :=
    Access.loginRequest_of_not_isValue h
  simp only [login, Access.login, hrequest]

/-- What becomes of a login is read off the outcome of its message, and not off the password. -/
theorem login_under_of_isValue
    (h : Header.isValue d.access.apiKey = true) (now : Instant) :
    (d.under password sent).login now
      = (match d.network.answer sent.length (d.access.withPassword password).loginMessage with
          | .error fault => .error (.transport fault)
          | .ok reply => d.access.sessionOfReply now reply,
        d.under password (sent ++ [(d.access.withPassword password).loginMessage])) := by
  have hrequest : (d.under password sent).access.loginRequest
      = .ok (d.access.withPassword password).loginMessage :=
    Access.loginRequest_of_isValue h
  have hsend : (d.under password sent).network.send (d.access.withPassword password).loginMessage
      = (d.network.answer sent.length (d.access.withPassword password).loginMessage,
        { d.network with sent := sent ++ [(d.access.withPassword password).loginMessage] }) := rfl
  simp only [login, Access.login, hrequest, hsend]
  cases d.network.answer sent.length (d.access.withPassword password).loginMessage with
  | error fault => rfl
  | ok reply => rfl

end Under

section Operations

variable {p q : String} {d d' : Desk}

theorem Twins.vault
    (h : Twins p q d d') :
    d.vault = d'.vault := by
  obtain ⟨base, sent, sent', -, -, rfl, rfl⟩ := h
  rfl

theorem Twins.sent
    (h : Twins p q d d') :
    List.Forall₂ (Request.Twins p q) d.network.sent d'.network.sent := by
  obtain ⟨base, sent, sent', -, hsent, rfl, rfl⟩ := h
  exact hsent

theorem Twins.kept
    (h : Twins p q d d') (now : Instant) :
    d.kept now = d'.kept now := by
  obtain ⟨base, sent, sent', -, -, rfl, rfl⟩ := h
  rfl

/-- What two operations of equal results come to. -/
theorem exists_pairs
    {α : Type} {x x' : α × Desk} (h : x.1 = x'.1 ∧ Twins p q x.2 x'.2) :
    ∃ result e e', x = (result, e) ∧ x' = (result, e') ∧ Twins p q e e' := by
  obtain ⟨result, e⟩ := x
  obtain ⟨result', e'⟩ := x'
  obtain ⟨hresult, hafter⟩ := h
  cases hresult
  exact ⟨result, e, e', rfl, rfl, hafter⟩

theorem keep_twin
    (h : Twins p q d d') (s : Session) :
    (d.keep s).1 = (d'.keep s).1 ∧ Twins p q (d.keep s).2 (d'.keep s).2 := by
  obtain ⟨base, sent, sent', hnetwork, hsent, rfl, rfl⟩ := h
  rw [keep_under, keep_under]
  refine ⟨rfl, (base.keep s).2, sent, sent', ?_, hsent, rfl, rfl⟩
  rw [network_keep]
  exact hnetwork

theorem clearVault_twin
    (h : Twins p q d d') :
    d.clearVault.1 = d'.clearVault.1 ∧ Twins p q d.clearVault.2 d'.clearVault.2 := by
  obtain ⟨base, sent, sent', hnetwork, hsent, rfl, rfl⟩ := h
  have hkept : base.clearVault.2.network = base.network := by
    rw [clearVault]
    cases base.vault <;> rfl
  rw [clearVault_under, clearVault_under]
  refine ⟨rfl, base.clearVault.2, sent, sent', ?_, hsent, rfl, rfl⟩
  rw [hkept]
  exact hnetwork

theorem login_twin
    (h : Twins p q d d') (now : Instant) :
    (d.login now).1 = (d'.login now).1 ∧ Twins p q (d.login now).2 (d'.login now).2 := by
  obtain ⟨base, sent, sent', hnetwork, hsent, rfl, rfl⟩ := h
  cases hkey : Header.isValue base.access.apiKey with
  | false =>
      rw [login_under_of_not_isValue base p sent hkey, login_under_of_not_isValue base q sent' hkey]
      exact ⟨rfl, base, sent, sent', hnetwork, hsent, rfl, rfl⟩
  | true =>
      have hmessage := base.access.twins_loginMessage p q
      rw [login_under_of_isValue base p sent hkey, login_under_of_isValue base q sent' hkey,
        hsent.length_eq, hnetwork _ _ _ hmessage]
      exact ⟨rfl, base, _, _, hnetwork, List.rel_append hsent (.cons hmessage .nil), rfl, rfl⟩

theorem authenticate_twin
    (h : Twins p q d d') (now : Instant) :
    (d.authenticate now).1 = (d'.authenticate now).1
      ∧ Twins p q (d.authenticate now).2 (d'.authenticate now).2 := by
  rw [authenticate, authenticate, h.kept]
  cases d'.kept now with
  | error e => exact ⟨rfl, h⟩
  | ok slot =>
      cases slot with
      | some s => exact ⟨rfl, h⟩
      | none =>
          obtain ⟨result, e, e', hd, hd', hlogin⟩ := exists_pairs (login_twin h now)
          simp only [hd, hd']
          cases result with
          | error fault => exact ⟨rfl, hlogin⟩
          | ok s =>
              obtain ⟨result, f, f', he, he', hkeep⟩ := exists_pairs (keep_twin hlogin s)
              simp only [he, he']
              cases result with
              | error fault => exact ⟨rfl, hkeep⟩
              | ok u => exact ⟨rfl, hkeep⟩

theorem logout_twin
    (h : Twins p q d d') (s : Session) :
    (d.logout s).1 = (d'.logout s).1 ∧ Twins p q (d.logout s).2 (d'.logout s).2 := by
  obtain ⟨base, sent, sent', hnetwork, hsent, rfl, rfl⟩ := h
  have hrequest (password : String) (sent : List Request) :
      (base.under password sent).access.logoutRequest s = base.access.logoutRequest s := rfl
  rw [logout, logout, hrequest, hrequest]
  cases hmessage : base.access.logoutRequest s with
  | error fault => exact ⟨rfl, base, sent, sent', hnetwork, hsent, rfl, rfl⟩
  | ok r =>
      have hr : Request.Twins p q r r := .bare r (Access.body_of_logoutRequest hmessage)
      have hparted : Twins p q (base.under p (sent ++ [r])) (base.under q (sent' ++ [r])) :=
        ⟨base, _, _, hnetwork, List.rel_append hsent (.cons hr .nil), rfl, rfl⟩
      obtain ⟨result, e, e', he, he', hclear⟩ := exists_pairs (clearVault_twin hparted)
      have hsend (password : String) (sent : List Request) :
          (base.under password sent).network.send r
            = (base.network.answer sent.length r, { base.network with sent := sent ++ [r] }) := rfl
      have hbase (password : String) (sent : List Request) :
          { base.under password sent with network := { base.network with sent := sent ++ [r] } }
            = base.under password (sent ++ [r]) := rfl
      simp only [hsend, hbase, hsent.length_eq, he, he']
      cases result with
      | error fault => exact ⟨rfl, hclear⟩
      | ok u =>
          cases RequestFailure.body (base.network.answer sent'.length r) with
          | error fault => exact ⟨rfl, hclear⟩
          | ok body => exact ⟨rfl, hclear⟩

end Operations

end Desk

namespace Scene

/-- The scenes are at one instant, with desks that differ in their passwords. -/
def Twins (p q : String) (c c' : Scene) : Prop :=
  c.now = c'.now ∧ Desk.Twins p q c.desk c'.desk

theorem act_twin
    {p q : String} {c c' : Scene} (h : Twins p q c c') (a : Act) :
    (c.act a).1 = (c'.act a).1 ∧ Twins p q (c.act a).2 (c'.act a).2 := by
  obtain ⟨desk, now⟩ := c
  obtain ⟨desk', now'⟩ := c'
  obtain ⟨rfl, hdesk⟩ := h
  cases a with
  | authenticate =>
      obtain ⟨hresult, hafter⟩ := Desk.authenticate_twin hdesk now
      exact ⟨congrArg Result.session hresult, rfl, hafter⟩
  | login =>
      obtain ⟨hresult, hafter⟩ := Desk.login_twin hdesk now
      exact ⟨congrArg (fun r => Result.session (Except.mapError Failure.login r)) hresult, rfl,
        hafter⟩
  | logout s =>
      obtain ⟨hresult, hafter⟩ := Desk.logout_twin hdesk s
      exact ⟨congrArg Result.done hresult, rfl, hafter⟩
  | clearVault =>
      obtain ⟨hresult, hafter⟩ := Desk.clearVault_twin hdesk
      exact ⟨congrArg (fun r => Result.done (Except.mapError Failure.vault r)) hresult, rfl,
        hafter⟩
  | put s =>
      obtain ⟨hresult, hafter⟩ := Desk.keep_twin hdesk s
      exact ⟨congrArg (fun r => Result.done (Except.mapError Failure.vault r)) hresult, rfl,
        hafter⟩
  | setClock now => exact ⟨rfl, rfl, hdesk⟩

/-- A desk with a scripted network, at an instant. -/
def scripted (a : Access) (vault : Option Vault) (margin : Span)
    (script : List Outcome) (silence : TransportFault) (now : Instant) : Scene :=
  ⟨⟨a, Network.scripted script silence, vault, margin⟩, now⟩

/--
Whatever two desks are asked to do that differ in nothing but their passwords, over the same
script, they give the same answers, their vaults are the same after every act, and they send
the same messages one by one, except that those of a login carry the password of their desk.
-/
theorem password_in_logins_alone
    (a : Access) (p q : String) (vault : Option Vault) (margin : Span)
    (script : List Outcome) (silence : TransportFault) (now : Instant) (acts : List Act) :
    List.Forall₂
      (fun m m' : Course.Moment Scene Act Result =>
        m.input = m'.input ∧ m.answer = m'.answer ∧ m.after.desk.vault = m'.after.desk.vault
          ∧ List.Forall₂ (Request.Twins p q) m.after.desk.network.sent
            m'.after.desk.network.sent)
      (Course.moments act (scripted (a.withPassword p) vault margin script silence now) acts)
      (Course.moments act (scripted (a.withPassword q) vault margin script silence now) acts) := by
  have hbegin : Twins p q (scripted (a.withPassword p) vault margin script silence now)
      (scripted (a.withPassword q) vault margin script silence now) :=
    ⟨rfl, ⟨a, Network.scripted script silence, vault, margin⟩, [], [],
      Network.overlooks_scripted script silence p q, .nil, rfl, rfl⟩
  refine (Course.moments_related (R := Twins p q) (fun _ _ a h => act_twin h a) hbegin acts).imp ?_
  rintro m m' ⟨hinput, hanswer, -, hafter⟩
  exact ⟨hinput, hanswer, hafter.vault, hafter.sent⟩

end Scene
end Gateway
end DealDesk
