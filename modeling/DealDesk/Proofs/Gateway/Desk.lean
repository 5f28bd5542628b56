import DealDesk.Proofs.Gateway.Login
import DealDesk.Proofs.Vault.Calls

/-!
# The course of a desk

A desk hands out sessions while the clock is set, sessions are put into its vault, and
the vault is cleared.  What the desk does when it is asked for a session depends on
the look into the vault alone: it may be baffled by what it finds, hold a valid
session, or lack one, and only in the last case does it log in.

**Results.** `Desk.authenticate_of_baffled`, `Desk.authenticate_of_holds` and
`Desk.logsIn_of_lacks`: the three cases.  `Scene.authenticate_in_course`: they hold at
every moment of every course, and a vault with a stale session outlasts every row of
logins that fail.
-/

namespace DealDesk
namespace Gateway
namespace Desk

/-! ### The look into the vault -/

/-- The desk has a vault, and what is in there cannot be read. -/
def Baffled (d : Desk) (e : Vault.Fault) : Prop :=
  ∃ v, d.vault = some v ∧ v.load = .error e

/-- The vault holds a session that is valid for longer than the margin. -/
def Holds (d : Desk) (now : Instant) (s : Session) : Prop :=
  ∃ v deadline, d.vault = some v ∧ v.load = .ok (some s)
    ∧ now.add? d.margin = some deadline ∧ deadline.before s.expiry = true

/-- What is in the vault can be read, but is no valid session; or there is no vault. -/
def Lacks (d : Desk) (now : Instant) : Prop :=
  (∀ e, ¬ d.Baffled e) ∧ ∀ s, ¬ d.Holds now s

section Look

variable {d : Desk} {now : Instant}

/-- The look into the vault has one of three outcomes. -/
theorem baffled_or_holds_or_lacks (d : Desk) (now : Instant) :
    (∃ e, d.Baffled e) ∨ (∃ s, d.Holds now s) ∨ d.Lacks now := by
  by_cases hbaffled : ∃ e, d.Baffled e
  · exact .inl hbaffled
  · by_cases hholds : ∃ s, d.Holds now s
    · exact .inr (.inl hholds)
    · exact .inr (.inr ⟨not_exists.1 hbaffled, not_exists.1 hholds⟩)

/-- A session that the desk holds is valid for the margin. -/
theorem Holds.isValidAt
    {s : Session} (h : d.Holds now s) :
    s.isValidAt now d.margin = true := by
  obtain ⟨v, deadline, -, -, hdeadline, hbefore⟩ := h
  exact Session.isValidAt_iff_exists.2 ⟨deadline, hdeadline, hbefore⟩

theorem holds_iff
    {v : Vault} (hv : d.vault = some v) (s : Session) :
    d.Holds now s ↔ v.load = .ok (some s) ∧ s.isValidAt now d.margin = true := by
  constructor
  · intro h
    have hvalid := h.isValidAt
    obtain ⟨w, deadline, hw, hload, -⟩ := h
    cases hv.symm.trans hw
    exact ⟨hload, hvalid⟩
  · rintro ⟨hload, hvalid⟩
    obtain ⟨deadline, hdeadline, hbefore⟩ := Session.isValidAt_iff_exists.1 hvalid
    exact ⟨v, deadline, hv, hload, hdeadline, hbefore⟩

theorem kept_of_baffled
    {e : Vault.Fault} (h : d.Baffled e) :
    d.kept now = .error e := by
  obtain ⟨v, hv, hload⟩ := h
  simp only [kept, hv, Vault.valid?, hload]

theorem kept_of_holds
    {s : Session} (h : d.Holds now s) :
    d.kept now = .ok (some s) := by
  have hvalid := h.isValidAt
  obtain ⟨v, deadline, hv, hload, -⟩ := h
  simp only [kept, hv, Vault.valid?, hload, hvalid, if_true]

theorem kept_of_lacks
    (h : d.Lacks now) :
    d.kept now = .ok none := by
  obtain ⟨hbaffled, hholds⟩ := h
  rw [kept]
  cases hv : d.vault with
  | none => rfl
  | some v =>
      simp only [Vault.valid?]
      cases hload : v.load with
      | error e => exact absurd ⟨v, hv, hload⟩ (hbaffled e)
      | ok slot =>
          cases slot with
          | none => rfl
          | some s =>
              have hvalid : s.isValidAt now d.margin = false := by
                rw [← Bool.not_eq_true]
                intro hvalid
                exact hholds s ((holds_iff hv s).2 ⟨hload, hvalid⟩)
              simp only [hvalid]
              rfl

/-! ### A session for whoever asks -/

/-- A desk that cannot read its vault says so, and does nothing else. -/
theorem authenticate_of_baffled
    {e : Vault.Fault} (h : d.Baffled e) :
    d.authenticate now = (.error (.vault e), d) := by
  rw [authenticate, kept_of_baffled h]

/-- A valid session is handed out as it is, and nothing else is done. -/
theorem authenticate_of_holds
    {s : Session} (h : d.Holds now s) :
    d.authenticate now = (.ok s, d) :=
  authenticate_of_kept (kept_of_holds h)

/-- The network after a login: one more message was sent, or none if the key is no header. -/
def spent (d : Desk) : Network :=
  if Header.isValue d.access.apiKey then
    { d.network with sent := d.network.sent ++ [d.access.loginMessage] }
  else d.network

/-- A login that fails is the failure of the desk; the vault is not touched. -/
theorem authenticate_of_fails
    {e : LoginFailure} (h : d.Lacks now) (hl : d.access.LoginFails now d.network e) :
    d.authenticate now = (.error (.login e), { d with network := d.spent }) := by
  have hanswer := Access.login_of_fails hl
  have hnetwork : (d.access.login now d.network).2 = d.spent := d.access.network_login now _
  rw [authenticate, kept_of_lacks h]
  simp only [login, hanswer, hnetwork]

/-- The session of a login goes into the vault before it is handed out. -/
theorem authenticate_of_gives
    {s : Session} (h : d.Lacks now) (hl : d.access.LoginGives now d.network s) :
    d.authenticate now
      = ((({ d with network := d.spent } : Desk).keep s).1.map (fun _ => s) |>.mapError .vault,
        (({ d with network := d.spent } : Desk).keep s).2) := by
  have hanswer := Access.login_of_gives hl
  have hnetwork : (d.access.login now d.network).2 = d.spent := d.access.network_login now _
  rw [authenticate, kept_of_lacks h]
  simp only [login, hanswer, hnetwork]
  generalize ({ d with network := d.spent } : Desk).keep s = kept
  obtain ⟨result, d'⟩ := kept
  cases result with
  | error e => rfl
  | ok u => rfl

theorem network_keep (d : Desk) (s : Session) :
    (d.keep s).2.network = d.network := by
  rw [keep]
  cases d.vault with
  | none => rfl
  | some v => rfl

end Look

end Desk

/-! ### Courses -/

/-- A desk at an instant. -/
structure Scene where
  desk : Desk
  now : Instant

namespace Scene

/-- What happens at a desk. -/
inductive Act where
  | authenticate
  | login
  | logout (s : Session)
  | clearVault
  | put (s : Session)
  | setClock (now : Instant)

/-- What an act gives: a session, or whether it was done. -/
inductive Result where
  | session (r : Except Failure Session)
  | done (r : Except Failure Unit)

def act (c : Scene) : Act → Result × Scene
  | .authenticate =>
      (.session (c.desk.authenticate c.now).1,
        { c with desk := (c.desk.authenticate c.now).2 })
  | .login =>
      (.session ((c.desk.login c.now).1.mapError .login),
        { c with desk := (c.desk.login c.now).2 })
  | .logout s => (.done (c.desk.logout s).1, { c with desk := (c.desk.logout s).2 })
  | .clearVault =>
      (.done (c.desk.clearVault.1.mapError .vault), { c with desk := c.desk.clearVault.2 })
  | .put s =>
      (.done ((c.desk.keep s).1.mapError .vault), { c with desk := (c.desk.keep s).2 })
  | .setClock now => (.done (.ok ()), { c with now })

/-- A login answers for a desk whose vault lacks a valid session. -/
structure LogsIn (c : Scene) (answer : Result) (after : Scene) : Prop where
  /-- The login fails in one of its ways or gives a session. -/
  ends : (∃ e, c.desk.access.LoginFails c.now c.desk.network e)
    ∨ ∃ s, c.desk.access.LoginGives c.now c.desk.network s
  /-- One message is sent, and none if the key of the application is no header. -/
  sends : after.desk.network = c.desk.spent
  /-- A login that fails changes nothing but the network. -/
  fails : ∀ e, c.desk.access.LoginFails c.now c.desk.network e →
    answer = .session (.error (.login e))
      ∧ after = { c with desk := { c.desk with network := c.desk.spent } }
  /-- Without a vault the session is handed out at once. -/
  gives : ∀ s, c.desk.access.LoginGives c.now c.desk.network s → c.desk.vault = none →
    answer = .session (.ok s)
  /-- A session that does not go into the vault is not handed out. -/
  refuses : ∀ s v e, c.desk.access.LoginGives c.now c.desk.network s →
    c.desk.vault = some v → (v.save s).1 = .error e → answer = .session (.error (.vault e))
  /-- A session that went into the vault is what the vault stores. -/
  stores : ∀ s v, c.desk.access.LoginGives c.now c.desk.network s →
    c.desk.vault = some v → (v.save s).1 = .ok () →
    answer = .session (.ok s)
      ∧ ∃ w, after.desk.vault = some w ∧ w.Stores s
        ∧ (w.load = .ok (some s) ↔ v.InMemory ∨ s.Exact)

end Scene

theorem Desk.logsIn_of_lacks
    {c : Scene} (h : c.desk.Lacks c.now) :
    c.LogsIn (c.act .authenticate).1 (c.act .authenticate).2 where
  ends := c.desk.access.loginFails_or_loginGives c.now c.desk.network
  sends := by
    rcases c.desk.access.loginFails_or_loginGives c.now c.desk.network with ⟨e, hl⟩ | ⟨s, hl⟩
    · simp only [Scene.act, Desk.authenticate_of_fails h hl]
    · simp only [Scene.act, Desk.authenticate_of_gives h hl, Desk.network_keep]
  fails e hl := by
    simp only [Scene.act, Desk.authenticate_of_fails h hl]
    exact ⟨trivial, trivial⟩
  gives s hl hv := by
    simp only [Scene.act, Desk.authenticate_of_gives h hl, Desk.keep, hv]
    rfl
  refuses s v e hl hv hsave := by
    simp only [Scene.act, Desk.authenticate_of_gives h hl, Desk.keep, hv, hsave]
    rfl
  stores s v hl hv hsave := by
    simp only [Scene.act, Desk.authenticate_of_gives h hl, Desk.keep, hv, hsave]
    exact ⟨rfl, (v.save s).2, rfl, Vault.stores_save hsave, Vault.load_save_iff hsave⟩

namespace Scene

/-- An act that lets no session into the vault or out of it. -/
def Rests (c : Scene) : Act → Prop
  | .authenticate =>
      c.desk.Lacks c.now → ∀ s, ¬ c.desk.access.LoginGives c.now c.desk.network s
  | .login => True
  | .logout _ => False
  | .clearVault => False
  | .put _ => False
  | .setClock _ => True

/-- What lets no session into the vault or out of it leaves the vault as it is. -/
theorem vault_act_of_rests
    {c : Scene} {a : Act} (h : c.Rests a) :
    (c.act a).2.desk.vault = c.desk.vault := by
  cases a with
  | authenticate =>
      rcases c.desk.baffled_or_holds_or_lacks c.now with ⟨e, he⟩ | ⟨s, hs⟩ | hlacks
      · simp only [act, Desk.authenticate_of_baffled he]
      · simp only [act, Desk.authenticate_of_holds hs]
      · rcases c.desk.access.loginFails_or_loginGives c.now c.desk.network
          with ⟨e, he⟩ | ⟨s, hs⟩
        · simp only [act, Desk.authenticate_of_fails hlacks he]
        · exact absurd hs (h hlacks s)
  | login => exact c.desk.vault_login c.now
  | logout s => exact h.elim
  | clearVault => exact h.elim
  | put s => exact h.elim
  | setClock now => rfl

/--
Every time a desk is asked for a session, in whatever course of acts: what baffles it is
its answer; a valid session in its vault is its answer; and otherwise a login answers.
The first two change nothing.  A row of acts none of which gets a session from a login
leaves the vault as it is, with whatever stale session it may hold.
-/
theorem authenticate_in_course
    (c : Scene) (acts : List Act) :
    (∀ m ∈ Course.moments act c acts, m.input = .authenticate →
      (∀ e, m.before.desk.Baffled e →
        m.answer = .session (.error (.vault e)) ∧ m.after = m.before)
      ∧ (∀ s, m.before.desk.Holds m.before.now s →
        m.answer = .session (.ok s) ∧ m.after = m.before)
      ∧ (m.before.desk.Lacks m.before.now → m.before.LogsIn m.answer m.after))
    ∧ ((∀ m ∈ Course.moments act c acts, m.before.Rests m.input) →
      (Course.finish act c acts).desk.vault = c.desk.vault) := by
  constructor
  · intro m hm hinput
    have hstep := Course.step_of_mem hm
    rw [hinput] at hstep
    obtain ⟨hanswer, hafter⟩ := Prod.mk.inj hstep
    rw [← hanswer, ← hafter]
    refine ⟨?_, ?_, Desk.logsIn_of_lacks⟩
    · intro e he
      simp only [Desk.authenticate_of_baffled he]
      exact ⟨trivial, trivial⟩
    · intro s hs
      simp only [Desk.authenticate_of_holds hs]
      exact ⟨trivial, trivial⟩
  · intro hrests
    refine Course.finish_of_unchanged (fun c : Scene => c.desk.vault) ?_
    intro m hm
    have hstep := Course.step_of_mem hm
    have hvault := vault_act_of_rests (hrests m hm)
    rw [hstep] at hvault
    exact hvault

/-- A desk that logs in to a balance with more digits than a double has. -/
def specimen : Scene where
  desk :=
    { access := Access.ofUrl "https://gateway" "key" "name" "secret" Access.defaultLifetime
      network := Network.scripted
        [.ok
          { status := 200
            headers := [Header.plain "cst" "client", Header.plain "x-security-token" "account"]
            body := "\x7b\"accountType\":\"\",\"accountInfo\":[123456789.123456789,0,0,0],"
              ++ "\"currencyIsoCode\":\"\",\"currentAccountId\":\"\",\"clientId\":\"\"\x7d" }]
        .noScheme
      vault := some (Vault.specimen .plain)
      margin := Vault.defaultMargin }
  now := ⟨0, 0, 0, by decide, by decide, by decide⟩

/-- The login of the specimen gives a session that a file does not give back. -/
theorem loginGives_specimen :
    ∃ s, specimen.desk.access.LoginGives specimen.now specimen.desk.network s
      ∧ ¬ s.Faithful := by
  obtain ⟨reply, hanswer⟩ : ∃ reply, specimen.desk.network.answer 0
      specimen.desk.access.loginMessage = .ok reply := ⟨_, rfl⟩
  have hadmits : Access.Admits reply "client" "account" := by
    cases hanswer
    exact ⟨by decide, by decide +kernel, by decide +kernel⟩
  have hbody : ((Account.codec.ofText reply.body).toOption.map fun a => a.accountInfo.amounts)
      = some [123456789.12345679, 0, 0, 0] := by
    cases hanswer
    decide +kernel
  have hexpiry : (specimen.now.add? specimen.desk.access.lifetime).isSome = true := by
    decide +kernel
  cases haccount : Account.codec.ofText reply.body with
  | error fault =>
      rw [haccount] at hbody
      cases hbody
  | ok account =>
      rw [haccount] at hbody
      obtain ⟨expiry, hadd⟩ := Option.isSome_iff_exists.1 hexpiry
      refine ⟨⟨"client", "account", expiry, account⟩,
        ⟨reply, ⟨by decide +kernel, hanswer⟩, hadmits, haccount, hadd⟩, ?_⟩
      refine Session.not_faithful_of_oddAmount ?_
      have hamounts : account.accountInfo.amounts = [Session.oddAmount, 0, 0, 0] :=
        Option.some.inj hbody
      rw [Session.amounts, hamounts]
      exact List.mem_cons_self

/-- A vault that a session went into need not give back exactly that session. -/
theorem authenticate_not_exact :
    ¬ ∀ (c : Scene) (acts : List Act), ∀ m ∈ Course.moments act c acts,
      m.input = .authenticate → m.before.desk.Lacks m.before.now →
        ∀ s v, m.before.desk.access.LoginGives m.before.now m.before.desk.network s →
          m.before.desk.vault = some v → (v.save s).1 = .ok () →
            ∃ w, m.after.desk.vault = some w ∧ w.load = .ok (some s) := by
  intro h
  have hfresh := Vault.fresh_specimen .plain
  have hload : (Vault.specimen .plain).load = .ok none :=
    hfresh.keeps_none.load (fun s hs => by cases hs)
  have hlacks : specimen.desk.Lacks specimen.now := by
    constructor
    · rintro e ⟨v, hv, he⟩
      cases hv
      rw [hload] at he
      cases he
    · rintro s ⟨v, deadline, hv, hs, -⟩
      cases hv
      rw [hload] at hs
      cases hs
  obtain ⟨s, hgives, hfaithful⟩ := loginGives_specimen
  have hsave := (hfresh.keeps_none.save s).1
  obtain ⟨w, hw, hwload⟩ := h specimen [.authenticate] _ List.mem_cons_self rfl hlacks s _
    hgives rfl hsave
  obtain ⟨-, w', hw', -, hexact⟩ := (Desk.logsIn_of_lacks hlacks).stores s _ hgives rfl hsave
  cases hw.symm.trans hw'
  rcases hexact.1 hwload with ⟨slot, hslot⟩ | hs
  · cases hslot
  · exact hfaithful hs.1

end Scene
end Gateway
end DealDesk
