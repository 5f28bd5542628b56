import DealDesk.Proofs.Gateway.Desk

/-!
# Desks with vaults that keep the same

Where a vault keeps its session is not seen by those who call it, and so not by those
who ask a desk with that vault for a session: a vault in memory, one with a session in
the open and one with a sealed session do the same, as long as every session they are
given reads back.  One that does not, for its amounts or for its expiry, is changed by a file
and not by memory, and so tells them apart.

**Results.** `Scene.Alike.act`: one act at desks whose vaults keep the same.
`Vault.answers_of_fresh`: vaults from which nothing was saved yet answer every row of
calls alike, and desks with them have the same course of acts and send the same.
`Vault.answers_differ`: they do not if the expiry of a session is left out of account.
-/

namespace DealDesk
namespace Gateway
namespace Desk

def withVault (d : Desk) (v : Vault) : Desk :=
  { d with vault := some v }

section Vaults

variable (d : Desk) (v : Vault)

theorem clearVault_withVault :
    (d.withVault v).clearVault = (v.clear.1, d.withVault v.clear.2) := rfl

theorem keep_withVault (s : Session) :
    (d.withVault v).keep s = ((v.save s).1, d.withVault (v.save s).2) := rfl

theorem login_withVault (now : Instant) :
    (d.withVault v).login now = ((d.login now).1, (d.login now).2.withVault v) := rfl

theorem authenticate_withVault (now : Instant) :
    (d.withVault v).authenticate now
      = match v.valid? now d.margin with
        | .error e => (.error (.vault e), d.withVault v)
        | .ok (some s) => (.ok s, d.withVault v)
        | .ok none =>
            match (d.login now).1 with
            | .error e => (.error (.login e), (d.login now).2.withVault v)
            | .ok s =>
                match (v.save s).1 with
                | .error e => (.error (.vault e), (d.login now).2.withVault (v.save s).2)
                | .ok () => (.ok s, (d.login now).2.withVault (v.save s).2) := by
  have hkept : (d.withVault v).kept now = v.valid? now d.margin := rfl
  rw [authenticate, hkept]
  cases v.valid? now d.margin with
  | error e => rfl
  | ok slot =>
      cases slot with
      | some s => rfl
      | none =>
          simp only [login_withVault]
          cases (d.login now).1 with
          | error e => rfl
          | ok s =>
              simp only [keep_withVault]
              cases (v.save s).1 with
              | error e => rfl
              | ok u => rfl

theorem logout_withVault (h : v.clear.1 = .ok ()) (s : Session) :
    (d.withVault v).logout s
      = match d.access.logoutRequest s with
        | .error fault =>
            (.error (.operation (.request (.transport fault))), d.withVault v)
        | .ok request =>
            (match RequestFailure.body (d.network.send request).1 with
              | .error e => .error (.operation (.request e))
              | .ok _ => .ok (),
              ({ d with network := (d.network.send request).2 } : Desk).withVault v.clear.2) := by
  have hrequest : (d.withVault v).access.logoutRequest s = d.access.logoutRequest s := rfl
  have hsend (r : Request) : (d.withVault v).network.send r = d.network.send r := rfl
  have hclear (n : Network) : ({ d.withVault v with network := n } : Desk).clearVault
      = (v.clear.1, ({ d with network := n } : Desk).withVault v.clear.2) := rfl
  rw [logout, hrequest]
  cases d.access.logoutRequest s with
  | error fault => rfl
  | ok request =>
      simp only [hsend, hclear, h]
      cases RequestFailure.body (d.network.send request).1 with
      | error e => rfl
      | ok body => rfl

end Vaults
end Desk

namespace Scene

def withVault (c : Scene) (v : Vault) : Scene :=
  { c with desk := c.desk.withVault v }

/-- The scenes differ in nothing but where their vaults keep the same. -/
def Alike (c c' : Scene) : Prop :=
  ∃ (base : Scene) (v w : Vault),
    v.Alike w ∧ c = base.withVault v ∧ c' = base.withVault w

/-- Every session that goes into the vault at the moment reads back. -/
def Modest (m : Course.Moment Scene Act Result) : Prop :=
  (∀ s, m.input = .put s → s.Exact)
    ∧ (m.input = .authenticate → ∀ s, m.answer = .session (.ok s) → s.Exact)

theorem Alike.network
    {c c' : Scene} (h : c.Alike c') :
    c.desk.network = c'.desk.network := by
  obtain ⟨base, v, w, -, rfl, rfl⟩ := h
  rfl

theorem Alike.authenticate
    {c c' : Scene} (h : c.Alike c')
    (hs : ∀ s, (c.desk.authenticate c.now).1 = .ok s → s.Exact) :
    (c.act .authenticate).1 = (c'.act .authenticate).1
      ∧ (c.act .authenticate).2.Alike (c'.act .authenticate).2 := by
  obtain ⟨base, v, w, halike, rfl, rfl⟩ := h
  have hvalid : v.valid? base.now base.desk.margin = w.valid? base.now base.desk.margin := by
    rw [Vault.valid?, Vault.valid?, halike.load]
  have hv := base.desk.authenticate_withVault v base.now
  have hw := base.desk.authenticate_withVault w base.now
  rw [hvalid] at hv
  simp only [act, withVault] at hs ⊢
  cases hfound : w.valid? base.now base.desk.margin with
  | error e =>
      simp only [hfound] at hv hw
      rw [hv, hw]
      exact ⟨rfl, base, v, w, halike, rfl, rfl⟩
  | ok slot =>
      cases slot with
      | some s =>
          simp only [hfound] at hv hw
          rw [hv, hw]
          exact ⟨rfl, base, v, w, halike, rfl, rfl⟩
      | none =>
          simp only [hfound] at hv hw
          cases hlogin : (base.desk.login base.now).1 with
          | error e =>
              simp only [hlogin] at hv hw
              rw [hv, hw]
              exact ⟨rfl, ⟨(base.desk.login base.now).2, base.now⟩, v, w, halike, rfl, rfl⟩
          | ok s =>
              simp only [hlogin] at hv hw
              have hsaved := halike.saves s
              simp only [hsaved.1] at hv
              simp only [hsaved.2] at hw
              rw [hv] at hs
              obtain ⟨-, hafter⟩ := halike.save (hs s rfl)
              rw [hv, hw]
              exact ⟨rfl, ⟨(base.desk.login base.now).2, base.now⟩, _, _, hafter, rfl, rfl⟩

/-- One act at desks whose vaults keep the same. -/
theorem Alike.act
    {c c' : Scene} (h : c.Alike c') {a : Act}
    (hm : Modest ⟨c, a, (c.act a).1, (c.act a).2⟩) :
    (c.act a).1 = (c'.act a).1 ∧ (c.act a).2.Alike (c'.act a).2 := by
  cases a with
  | authenticate =>
      exact h.authenticate fun s hs => hm.2 rfl s (congrArg Result.session hs)
  | login =>
      obtain ⟨base, v, w, halike, rfl, rfl⟩ := h
      exact ⟨rfl, ⟨(base.desk.login base.now).2, base.now⟩, v, w, halike, rfl, rfl⟩
  | logout s =>
      obtain ⟨base, v, w, halike, rfl, rfl⟩ := h
      obtain ⟨⟨hv, hw⟩, hafter⟩ := halike.clear
      simp only [Scene.act, withVault, Desk.logout_withVault _ _ hv,
        Desk.logout_withVault _ _ hw]
      cases base.desk.access.logoutRequest s with
      | error fault => exact ⟨rfl, base, v, w, halike, rfl, rfl⟩
      | ok request =>
          exact ⟨rfl, ⟨{ base.desk with network := (base.desk.network.send request).2 },
            base.now⟩, _, _, hafter, rfl, rfl⟩
  | clearVault =>
      obtain ⟨base, v, w, halike, rfl, rfl⟩ := h
      obtain ⟨⟨hv, hw⟩, hafter⟩ := halike.clear
      simp only [Scene.act, withVault, Desk.clearVault_withVault, hv, hw]
      exact ⟨trivial, base, _, _, hafter, rfl, rfl⟩
  | put s =>
      obtain ⟨base, v, w, halike, rfl, rfl⟩ := h
      obtain ⟨⟨hv, hw⟩, hafter⟩ := halike.save (hm.1 s rfl)
      simp only [Scene.act, withVault, Desk.keep_withVault, hv, hw]
      exact ⟨trivial, base, _, _, hafter, rfl, rfl⟩
  | setClock now =>
      obtain ⟨base, v, w, halike, rfl, rfl⟩ := h
      exact ⟨rfl, { base with now }, v, w, halike, rfl, rfl⟩

end Scene
end Gateway

namespace Vault

/-- What is saved in memory and what is saved in a file come back alike if it reads back. -/
theorem Fresh.answers_save_load_iff
    {v w : Vault} (hv : v.Fresh) (hw : w.Fresh) (hmemory : v.InMemory) (hfile : ¬ w.InMemory)
    (s : Session) :
    Course.answers call v [.save s, .load] = Course.answers call w [.save s, .load]
      ↔ s.Exact := by
  obtain ⟨hsaved, hsaved'⟩ := (hv.alike hw).saves s
  have hload : (v.save s).2.load = .ok (some s) := (load_save_iff hsaved).2 (.inl hmemory)
  have hload' : (w.save s).2.load = .ok (some s) ↔ s.Exact := by
    rw [load_save_iff hsaved']
    simp only [hfile, false_or]
  have hanswers (u : Vault) : Course.answers call u [.save s, .load]
      = [.done (u.save s).1, .found (u.save s).2.load] := rfl
  rw [hanswers, hanswers, hsaved, hsaved', hload, ← hload']
  simp only [List.cons.injEq, true_and, and_true, Reply.found.injEq, eq_comm]

/--
Vaults from which nothing was saved yet answer every row of calls alike, wherever they
keep their sessions and under whatever key and nonces.  Desks that differ in nothing but
such vaults answer every row of acts alike and have sent the same in the end.  The
sessions that go into the vaults read back, in their amounts and in their expiry; one that
does not is loaded differently from memory and from a file.
-/
theorem answers_of_fresh
    {v w : Vault} (hv : v.Fresh) (hw : w.Fresh) :
    (∀ calls : List Call, (∀ s, Call.save s ∈ calls → s.Exact) →
      Course.answers call v calls = Course.answers call w calls)
    ∧ (∀ (c : Gateway.Scene) (acts : List Gateway.Scene.Act),
      (∀ m ∈ Course.moments Gateway.Scene.act (c.withVault v) acts, Gateway.Scene.Modest m) →
      Course.answers Gateway.Scene.act (c.withVault v) acts
          = Course.answers Gateway.Scene.act (c.withVault w) acts
        ∧ (Course.finish Gateway.Scene.act (c.withVault v) acts).desk.network
          = (Course.finish Gateway.Scene.act (c.withVault w) acts).desk.network)
    ∧ (v.InMemory → ¬ w.InMemory → ∀ s : Session,
      Course.answers call v [.save s, .load] = Course.answers call w [.save s, .load]
        ↔ s.Exact) := by
  have halike := hv.alike hw
  refine ⟨fun calls hcalls => halike.answers hcalls, fun c acts hmodest => ?_,
    hv.answers_save_load_iff hw⟩
  have hbegin : (c.withVault v).Alike (c.withVault w) := ⟨c, v, w, halike, rfl, rfl⟩
  have hstep (b b' : Gateway.Scene) (a : Gateway.Scene.Act)
      (hm : Gateway.Scene.Modest ⟨b, a, (b.act a).1, (b.act a).2⟩) (h : b.Alike b') :
      (b.act a).1 = (b'.act a).1 ∧ (b.act a).2.Alike (b'.act a).2 := h.act hm
  obtain ⟨hanswers, hfinish⟩ := Course.answers_eq_of_related hstep hbegin hmodest
  exact ⟨hanswers, hfinish.network⟩

section Specimen

open Gateway

/-- A desk whose login gives amounts that read back. -/
def modestScene : Scene where
  desk :=
    { Scene.specimen.desk with
      network := Network.scripted
        [.ok
          { status := 200
            headers := [Header.plain "cst" "client", Header.plain "x-security-token" "account"]
            body := "\x7b\"accountType\":\"\",\"accountInfo\":[1000.5,0.1,-12.25,0.0],"
              ++ "\"currencyIsoCode\":\"\",\"currentAccountId\":\"\",\"clientId\":\"\"\x7d" }]
        .noScheme }
  now := Scene.specimen.now

/-- A session that has expired is put into the vault, and two are asked for. -/
def modestActs : List Scene.Act :=
  [.put Session.specimen, .authenticate, .authenticate, .clearVault]

/-- What is put into the vault reads back, and so does what both calls hand out. -/
theorem modest_specimen :
    ∀ m ∈ Course.moments Scene.act (modestScene.withVault blank) modestActs, Scene.Modest m := by
  have hshown : (Course.answers Scene.act (modestScene.withVault blank) modestActs).all (fun r =>
      match r with
      | .session (.ok s) => s.amounts = Session.specimen.amounts && !s.expiry.isLeap
      | _ => true) = true := by decide +kernel
  rw [List.all_eq_true] at hshown
  intro m hm
  refine ⟨fun s hs => ?_, fun _ s hs => ?_⟩
  · have hput := Course.input_mem hm
    rw [hs] at hput
    simp only [modestActs, List.mem_cons, List.not_mem_nil, reduceCtorEq, or_false,
      Scene.Act.put.injEq] at hput
    rw [hput]
    exact Session.exact_specimen
  · have hanswer := hshown m.answer (List.mem_map_of_mem hm)
    rw [hs] at hanswer
    simp only [Bool.and_eq_true, decide_eq_true_eq, Bool.not_eq_true'] at hanswer
    exact Session.exact_of_amounts hanswer.1 hanswer.2

/-- A vault in memory and one with a sealed file, called and with a desk each. -/
theorem answers_of_fresh_specimen :
    blank.Fresh
      ∧ (specimen (.sealed ⟨List.replicate 32 7, rfl⟩)).Fresh
      ∧ Course.answers call blank [.load, .save Session.specimen, .load, .clear, .load]
        = Course.answers call (specimen (.sealed ⟨List.replicate 32 7, rfl⟩))
          [.load, .save Session.specimen, .load, .clear, .load]
      ∧ Course.answers Scene.act (modestScene.withVault blank) modestActs
        = Course.answers Scene.act
          (modestScene.withVault (specimen (.sealed ⟨List.replicate 32 7, rfl⟩))) modestActs
      ∧ (Course.answers call blank [.save Session.lateSpecimen, .load]
        ≠ Course.answers call (specimen (.sealed ⟨List.replicate 32 7, rfl⟩))
          [.save Session.lateSpecimen, .load]) := by
  have hfile := fresh_specimen (.sealed ⟨List.replicate 32 7, rfl⟩)
  obtain ⟨hcalls, hacts, hexact⟩ := answers_of_fresh fresh_blank hfile
  refine ⟨fresh_blank, hfile, hcalls _ ?_, (hacts modestScene modestActs modest_specimen).1, ?_⟩
  · intro s hs
    simp only [List.mem_cons, List.not_mem_nil, reduceCtorEq, false_or, or_false,
      Call.save.injEq] at hs
    rw [hs]
    exact Session.exact_specimen
  · exact fun h => Session.not_exact_lateSpecimen.2
      ((hexact ⟨none, rfl⟩ (not_inMemory_of_file rfl) _).1 h)

/-- Amounts that read back do not make a file answer as memory does. -/
theorem answers_differ :
    ¬ ∀ v w : Vault, v.Fresh → w.Fresh → ∀ calls : List Call,
      (∀ s, Call.save s ∈ calls → s.Faithful) →
        Course.answers call v calls = Course.answers call w calls := by
  intro h
  have hfile := fresh_specimen .plain
  have hsame := h blank (specimen .plain) fresh_blank hfile
    [.save Session.lateSpecimen, .load] (by
      intro s hs
      simp only [List.mem_cons, List.not_mem_nil, reduceCtorEq, or_false,
        Call.save.injEq] at hs
      rw [hs]
      exact Session.not_exact_lateSpecimen.1)
  rw [fresh_blank.answers_save_load_iff hfile ⟨none, rfl⟩ (not_inMemory_of_file rfl)] at hsame
  exact Session.not_exact_lateSpecimen.2 hsame

end Specimen

end Vault
end DealDesk
