import DealDesk.Proofs.Gateway.Desk
import DealDesk.Proofs.Time.Deadline
import DealDesk.Settings.Config

/-!
# Desks on the terms of settings

Settings say how long a session lasts after its login, and how long a session from the
vault has to be valid at least.  Both spans are checked on their own and neither against
the other, so a desk may hand out a session from a login that its own vault would hold
back.

**Results.** `Config.isValidAt_of_gives_iff`: the session of a login is valid for the margin
exactly if the lifetime is longer than it.  `Desk.again_of_gives_iff`: when a session that
was put into the vault is handed out again.  `Config.session_lasts_iff`: both conditions for
whatever session a desk hands out.
-/

namespace DealDesk

/-- A desk with a vault on the terms of settings, in an environment and with secrets. -/
structure Config.Opens (c : Config) (e : Environment) (secrets : Settings.Secrets)
    (d : Gateway.Desk) (v : Vault) : Prop where
  access : c.access secrets = .ok d.access
  terms : ∃ store, c.cacheTerms e secrets = .ok (store, d.margin)
  vault : d.vault = some v

namespace Gateway
namespace Desk

section Again

variable {d : Desk} {now : Instant} {s : Session}

/-- The desk once the session of a login is in its vault. -/
def stocked (d : Desk) (v : Vault) (s : Session) : Desk :=
  { d with network := d.spent, vault := some (v.save s).2 }

/-- A desk that lacks a session and can keep the one of a login hands that out. -/
theorem authenticate_eq_stocked
    {v : Vault} (hv : d.vault = some v) (hlacks : d.Lacks now)
    (hl : d.access.LoginGives now d.network s) (hsave : (v.save s).1 = .ok ()) :
    d.authenticate now = (.ok s, d.stocked v s) := by
  rw [authenticate_of_gives hlacks hl, keep, hv]
  simp only [hsave]
  rfl

/-- Where the session comes from that a desk with a vault hands out. -/
theorem holds_or_gives
    {v : Vault} (hv : d.vault = some v) {d' : Desk} (h : d.authenticate now = (.ok s, d')) :
    (d.Holds now s ∧ d' = d)
    ∨ d.Lacks now ∧ d.access.LoginGives now d.network s ∧ (v.save s).1 = .ok ()
      ∧ d' = d.stocked v s := by
  rcases d.baffled_or_holds_or_lacks now with ⟨e, he⟩ | ⟨s', hs'⟩ | hlacks
  · rw [authenticate_of_baffled he] at h
    cases h
  · rw [authenticate_of_holds hs'] at h
    cases h
    exact .inl ⟨hs', rfl⟩
  · rcases d.access.loginFails_or_loginGives now d.network with ⟨e, he⟩ | ⟨s', hs'⟩
    · rw [authenticate_of_fails hlacks he] at h
      cases h
    · rw [authenticate_of_gives hlacks hs', keep, hv] at h
      cases hsave : (v.save s').1 with
      | error e =>
          simp only [hsave] at h
          cases h
      | ok u =>
          simp only [hsave] at h
          cases h
          exact .inr ⟨hlacks, hs', hsave, rfl⟩

/-- A login sends a message, so a desk that logs in does not stay as it is. -/
theorem authenticate_ne_self_of_gives
    (hlacks : d.Lacks now) (hl : d.access.LoginGives now d.network s) :
    ∀ r, d.authenticate now ≠ (r, d) := by
  intro r h
  have hkey : Header.isValue d.access.apiKey = true := by
    obtain ⟨reply, hanswered, -⟩ := hl
    exact hanswered.1
  have hnetwork : (d.authenticate now).2.network = d.spent := by
    rw [authenticate_of_gives hlacks hl, network_keep]
  rw [h, spent, if_pos hkey] at hnetwork
  have hsent := congrArg (fun n : Network => n.sent.length) hnetwork
  simp at hsent

/--
A session of a login that went into the vault is handed out again at the same instant,
without another login, exactly if it is valid for the margin and the vault gives it back.
-/
theorem again_of_gives_iff
    {v : Vault} (hsave : (v.save s).1 = .ok ()) :
    (d.stocked v s).authenticate now = (.ok s, d.stocked v s)
      ↔ s.isValidAt now d.margin = true ∧ (v.InMemory ∨ s.Exact) := by
  have hvault : (d.stocked v s).vault = some (v.save s).2 := rfl
  have hmargin : (d.stocked v s).margin = d.margin := rfl
  rw [← Vault.load_save_iff hsave, and_comm, ← hmargin, ← holds_iff hvault s]
  refine ⟨fun h => ?_, authenticate_of_holds⟩
  rcases holds_or_gives hvault h with ⟨hholds, -⟩ | ⟨hlacks, hgives, -⟩
  · exact hholds
  · exact absurd h (authenticate_ne_self_of_gives hlacks hgives _)

end Again

end Desk
end Gateway

namespace Config

open Gateway

theorem lifetime_of_access
    {c : Config} {secrets : Settings.Secrets} {a : Access} (h : c.access secrets = .ok a) :
    a.lifetime = Span.ofMinutes c.lifetime.toInt ∧ 1 ≤ c.lifetime.toInt := by
  rw [access] at h
  cases hi : c.identifier with
  | none =>
      simp only [hi] at h
      cases h
  | some identifier =>
      cases hk : secrets.apiKey with
      | none =>
          simp only [hi, hk] at h
          cases h
      | some key =>
          cases hp : secrets.password with
          | none =>
              simp only [hi, hk, hp] at h
              cases h
          | some password =>
              simp only [hi, hk, hp, lifetimeSpan] at h
              split at h
              · rename_i hrange
                cases h
                exact ⟨rfl, hrange.1⟩
              · cases h

theorem margin_of_cacheTerms
    {c : Config} {e : Environment} {secrets : Settings.Secrets} {store : Vault.Store}
    {margin : Span} (h : c.cacheTerms e secrets = .ok (store, margin)) :
    margin = Span.ofSeconds c.margin.toInt ∧ 0 ≤ c.margin.toInt := by
  rw [cacheTerms] at h
  cases hs : c.store e secrets with
  | error fault =>
      rw [hs] at h
      cases h
  | ok kept =>
      simp only [hs, marginSpan] at h
      split at h
      · rename_i hrange
        cases h
        exact ⟨rfl, hrange.1⟩
      · cases h

/-- The session of a login on the terms of settings does not expire in a leap second. -/
theorem isLeap_of_gives
    {c : Config} {secrets : Settings.Secrets} {a : Access} (h : c.access secrets = .ok a)
    {now : Instant} {n : Network} {s : Session} (hl : a.LoginGives now n s) :
    s.expiry.isLeap = false := by
  obtain ⟨hlifetime, hlow⟩ := lifetime_of_access h
  obtain ⟨reply, -, -, -, hexpiry⟩ := hl
  rw [hlifetime, Span.ofMinutes] at hexpiry
  exact Instant.isLeap_of_add?_ofSeconds (by omega) hexpiry

/--
The session of a login is valid for the margin of the settings exactly if their lifetime is
longer than that.
-/
theorem isValidAt_of_gives_iff
    {c : Config} {e : Environment} {secrets : Settings.Secrets} {d : Desk} {v : Vault}
    (h : c.Opens e secrets d v) {now : Instant} {s : Session}
    (hl : d.access.LoginGives now d.network s) :
    s.isValidAt now d.margin = true ↔ c.margin.toInt < 60 * c.lifetime.toInt := by
  obtain ⟨hlifetime, hlow⟩ := lifetime_of_access h.access
  obtain ⟨store, hterms⟩ := h.terms
  obtain ⟨hmargin, hzero⟩ := margin_of_cacheTerms hterms
  obtain ⟨reply, -, -, -, hexpiry⟩ := hl
  rw [hlifetime, Span.ofMinutes] at hexpiry
  have hbefore := Instant.before_add?_iff hzero (by omega) hexpiry
  rw [hmargin, Session.isValidAt_iff_exists, Int.mul_comm 60, ← hbefore]

/--
Whatever a desk hands out on the terms of settings: it is valid for the margin exactly if it
was in the vault, or the lifetime of the settings is longer than the margin.  At the same
instant the desk hands it out once more without a message exactly if it is valid for the
margin and was in the vault, or was put there and is given back as it was.
-/
theorem session_lasts_iff
    {c : Config} {e : Environment} {secrets : Settings.Secrets} {d : Desk} {v : Vault}
    (h : c.Opens e secrets d v) {now : Instant} {s : Session} {d' : Desk}
    (hd : d.authenticate now = (.ok s, d')) :
    (s.isValidAt now d.margin = true
      ↔ d.Holds now s ∨ c.margin.toInt < 60 * c.lifetime.toInt)
    ∧ (d'.authenticate now = (.ok s, d')
      ↔ s.isValidAt now d.margin = true ∧ (d.Holds now s ∨ v.InMemory ∨ s.Faithful)) := by
  rcases Desk.holds_or_gives h.vault hd with ⟨hholds, rfl⟩ | ⟨hlacks, hgives, hsave, rfl⟩
  · have hvalid := hholds.isValidAt
    simp only [hvalid, hholds, true_or, and_self, hd]
  · have hholds : ¬ d.Holds now s := hlacks.2 s
    rw [isValidAt_of_gives_iff h hgives, Desk.again_of_gives_iff hsave,
      isValidAt_of_gives_iff h hgives,
      Session.exact_iff_faithful (isLeap_of_gives h.access hgives)]
    simp only [hholds, false_or, and_self]

/-- Settings with a session that lasts a minute and a margin of five. -/
def specimen : Config :=
  { standard with identifier := some "name", cache := .memory, lifetime := 1 }

def secretsSpecimen : Settings.Secrets := ⟨some "key", some "secret", none⟩

/-- A desk on the terms of the specimen, with an empty vault in memory. -/
def deskSpecimen : Desk :=
  { Scene.specimen.desk with
    access := Access.ofUrl "https://demo-api.ig.com" "key" "name" "secret" (Span.ofMinutes 1)
    vault := some Vault.blank
    margin := Span.ofSeconds 300 }

theorem opens_specimen (e : Environment) :
    specimen.Opens e secretsSpecimen deskSpecimen Vault.blank where
  access := rfl
  terms := ⟨.memory none, rfl⟩
  vault := rfl

/-- The desk of the specimen logs in, and the session is not valid for its margin. -/
theorem exists_authenticate_specimen :
    ∃ s d', deskSpecimen.authenticate Scene.specimen.now = (.ok s, d')
      ∧ s.isValidAt Scene.specimen.now deskSpecimen.margin = false := by
  have hvalid : ((deskSpecimen.authenticate Scene.specimen.now).1.toOption.map fun s =>
      s.isValidAt Scene.specimen.now deskSpecimen.margin) = some false := by decide +kernel
  cases hd : deskSpecimen.authenticate Scene.specimen.now with
  | mk r d' =>
      rw [hd] at hvalid
      cases r with
      | error e => cases hvalid
      | ok s => exact ⟨s, d', rfl, Option.some.inj hvalid⟩

theorem session_lasts_iff_specimen :
    ∃ s d', specimen.Opens ⟨[], none⟩ secretsSpecimen deskSpecimen Vault.blank
      ∧ deskSpecimen.authenticate Scene.specimen.now = (.ok s, d')
      ∧ (s.isValidAt Scene.specimen.now deskSpecimen.margin = true
        ↔ deskSpecimen.Holds Scene.specimen.now s
          ∨ specimen.margin.toInt < 60 * specimen.lifetime.toInt)
      ∧ (d'.authenticate Scene.specimen.now = (.ok s, d')
        ↔ s.isValidAt Scene.specimen.now deskSpecimen.margin = true
          ∧ (deskSpecimen.Holds Scene.specimen.now s ∨ Vault.blank.InMemory ∨ s.Faithful)) := by
  obtain ⟨s, d', hd, -⟩ := exists_authenticate_specimen
  exact ⟨s, d', opens_specimen _, hd, session_lasts_iff (opens_specimen ⟨[], none⟩) hd⟩

/-- A desk hands out a session that is not valid for the margin of its settings. -/
theorem session_falls_short :
    ¬ ∀ (c : Config) (e : Environment) (secrets : Settings.Secrets) (d : Desk) (v : Vault),
      c.Opens e secrets d v → ∀ (now : Instant) (s : Session) (d' : Desk),
        d.authenticate now = (.ok s, d') →
          s.isValidAt now d.margin = true ∧ d'.authenticate now = (.ok s, d') := by
  intro h
  obtain ⟨s, d', hd, hshort⟩ := exists_authenticate_specimen
  have hvalid := (h _ ⟨[], none⟩ _ _ _ (opens_specimen _) _ s d' hd).1
  rw [hshort] at hvalid
  cases hvalid

end Config
end DealDesk
