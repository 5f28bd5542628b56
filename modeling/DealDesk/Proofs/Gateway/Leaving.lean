import DealDesk.Proofs.Gateway.Client
import DealDesk.Proofs.Gateway.Stores

/-!
# The end of a session

A logout first puts the key of the application and the tokens of the session into the
headers of a message.  If one of them cannot be the value of a header there is no message,
and the logout ends with the vault as it was.  Otherwise the message is sent, and the vault
is cleared whatever comes back.

**Results.** `Desk.logout_of_unfit` and `Desk.logout_of_fit`: what a logout answers and leaves
behind, without a message and with one.  `Desk.logout_empties_iff`: a logout whose answer is no
fault of the vault leaves it empty exactly if there was a message to send, or the vault was
empty before.
-/

namespace DealDesk
namespace Gateway
namespace Access

/-- One who deals in the session; the same values go into the headers of a logout. -/
def client (a : Access) (s : Session) : Client :=
  ⟨a.baseUrl, a.apiKey, s⟩

/-- What a logout sends. -/
def logoutMessage (a : Access) (s : Session) : Request where
  method := .delete
  url := a.baseUrl ++ "/gateway/deal/session"
  headers := (a.client s).headers "1"
  body := none

theorem logoutRequest_of_unfit
    {a : Access} {s : Session} {name : String} (h : (a.client s).Unfit name) :
    a.logoutRequest s = .error (.invalidHeader name) := by
  have hheaders : sessionHeaders a.apiKey 1 s = .error (.invalidHeader name) :=
    sessionHeaders_of_unfit h 1
  rw [logoutRequest, hheaders]
  rfl

theorem logoutRequest_of_not_unfit
    {a : Access} {s : Session} (h : ∀ name, ¬ (a.client s).Unfit name) :
    a.logoutRequest s = .ok (a.logoutMessage s) := by
  have hheaders : sessionHeaders a.apiKey 1 s = .ok ((a.client s).headers "1") :=
    sessionHeaders_of_not_unfit h 1
  rw [logoutRequest, hheaders]
  rfl

end Access

namespace Desk

section Logout

variable (d : Desk) (v : Vault) (s : Session)

/-- A key and two tokens that can be the values of headers. -/
def Fit : Prop :=
  ∀ name, ¬ (d.access.client s).Unfit name

/-- The desk once the message of a logout is sent. -/
def parted : Desk :=
  { d with network :=
    { d.network with sent := d.network.sent ++ [d.access.logoutMessage s] } }

/-- What comes back for the message of a logout. -/
def farewell : Except RequestFailure String :=
  RequestFailure.body (d.network.answer d.network.sent.length (d.access.logoutMessage s))

/-- Without a message nothing is done. -/
theorem logout_of_unfit
    {name : String} (h : (d.access.client s).Unfit name) :
    (d.withVault v).logout s
      = (.error (.operation (.request (.transport (.invalidHeader name)))), d.withVault v) := by
  have hrequest : (d.withVault v).access.logoutRequest s = d.access.logoutRequest s := rfl
  rw [logout, hrequest, Access.logoutRequest_of_unfit h]

/-- A vault that cannot be cleared is the failure, whatever came back. -/
theorem logout_of_stuck
    (h : d.Fit s) {e : Vault.Fault} (he : v.clear.1 = .error e) :
    (d.withVault v).logout s = (.error (.vault e), (d.parted s).withVault v.clear.2) := by
  have hrequest : (d.withVault v).access.logoutRequest s = .ok (d.access.logoutMessage s) :=
    Access.logoutRequest_of_not_unfit h
  have hclear (n : Network) : ({ d.withVault v with network := n } : Desk).clearVault
      = (.error e, ({ d with network := n } : Desk).withVault v.clear.2) := by
    rw [← he]
    rfl
  simp only [logout, hrequest, hclear]
  rfl

/-- Once the vault is cleared, what came back decides the answer. -/
theorem logout_of_cleared
    (h : d.Fit s) (hc : v.clear.1 = .ok ()) :
    (d.withVault v).logout s
      = (((d.farewell s).map fun _ => ()).mapError fun e => .operation (.request e),
        (d.parted s).withVault v.clear.2) := by
  rw [logout_withVault d v hc s, Access.logoutRequest_of_not_unfit h]
  simp only [Network.send, farewell]
  cases RequestFailure.body
      (d.network.answer d.network.sent.length (d.access.logoutMessage s)) with
  | error e => rfl
  | ok body => rfl

/-- What a logout does to the vault, once its message is sent. -/
theorem logout_of_fit (h : d.Fit s) :
    ((d.withVault v).logout s).2 = (d.parted s).withVault v.clear.2
    ∧ ((∃ e, v.clear.1 = .error e ∧ ((d.withVault v).logout s).1 = .error (.vault e))
      ∨ v.clear.2.load = .ok none
        ∧ ((d.withVault v).logout s).1
          = ((d.farewell s).map fun _ => ()).mapError fun e => .operation (.request e)) := by
  cases hc : v.clear.1 with
  | error e =>
      rw [logout_of_stuck d v s h hc]
      exact ⟨rfl, .inl ⟨e, rfl, rfl⟩⟩
  | ok u =>
      rw [logout_of_cleared d v s h hc]
      exact ⟨rfl, .inr ⟨Vault.load_clear hc, rfl⟩⟩

end Logout

/--
A logout leaves the vault empty, unless a fault of the vault is its answer, exactly if the
key of the application and both tokens can be the values of headers, or the vault was empty
before.  If they can, the message is sent once and the vault is cleared, whatever comes
back; if not, that is the answer and nothing is done.
-/
theorem logout_empties_iff (d : Desk) (v : Vault) (s : Session) :
    (((∃ e, ((d.withVault v).logout s).1 = .error (.vault e))
        ∨ ∃ w, ((d.withVault v).logout s).2.vault = some w ∧ w.load = .ok none)
      ↔ d.Fit s ∨ v.load = .ok none)
    ∧ (d.Fit s →
      ((d.withVault v).logout s).2 = (d.parted s).withVault v.clear.2
      ∧ ((∃ e, v.clear.1 = .error e ∧ ((d.withVault v).logout s).1 = .error (.vault e))
        ∨ v.clear.2.load = .ok none
          ∧ ((d.withVault v).logout s).1
            = ((d.farewell s).map fun _ => ()).mapError fun e => .operation (.request e)))
    ∧ ∀ name, (d.access.client s).Unfit name →
      (d.withVault v).logout s
        = (.error (.operation (.request (.transport (.invalidHeader name)))), d.withVault v) := by
  refine ⟨?_, logout_of_fit d v s, fun name => logout_of_unfit d v s⟩
  by_cases hunfit : ∃ name, (d.access.client s).Unfit name
  · obtain ⟨name, hname⟩ := hunfit
    rw [logout_of_unfit d v s hname]
    constructor
    · rintro (⟨e, he⟩ | ⟨w, hw, hload⟩)
      · cases he
      · cases hw
        exact .inr hload
    · rintro (hfit | hload)
      · exact absurd hname (hfit name)
      · exact .inr ⟨v, rfl, hload⟩
  · have hfit : d.Fit s := not_exists.1 hunfit
    obtain ⟨hafter, hanswer⟩ := logout_of_fit d v s hfit
    refine ⟨fun _ => .inl hfit, fun _ => ?_⟩
    rcases hanswer with ⟨e, -, he⟩ | ⟨hload, -⟩
    · exact .inl ⟨e, he⟩
    · exact .inr ⟨v.clear.2, by rw [hafter]; rfl, hload⟩

/-- A session whose token cannot be the value of a header outlasts its logout. -/
theorem logout_keeps_session :
    ¬ ∀ (d : Desk) (v : Vault) (s : Session),
      (∀ e, ((d.withVault v).logout s).1 ≠ .error (.vault e)) →
        ∃ w, ((d.withVault v).logout s).2.vault = some w ∧ w.load = .ok none := by
  intro h
  let d : Desk := Scene.specimen.desk
  let v : Vault := { Vault.blank with store := .memory (some Session.specimen) }
  -- The token of the specimen has a line break in it.
  have hunfit : (d.access.client Session.specimen).Unfit "cst" :=
    .clientToken (by decide +kernel) (by decide +kernel)
  have hlogout := logout_of_unfit d v Session.specimen hunfit
  obtain ⟨w, hw, hload⟩ := h d v Session.specimen (by rw [hlogout]; exact fun e he => by cases he)
  rw [hlogout] at hw
  cases hw
  cases hload

end Desk
end Gateway
end DealDesk
