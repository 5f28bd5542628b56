import DealDesk.Proofs.Gateway.Terms

/-!
# When a desk logs in again

A desk that is asked for sessions, and for nothing else, keeps the session of its last login
and hands it out as long as that is valid for the margin.  The clock may go either way, so a
session that was held back may be handed out later.  What decides is the instant of the last
login alone: the vault is only a way to remember it.

**Results.** `Desk.Remembers.recalls` and `Desk.Remembers.renews`: one call, in terms of the
last login.  `Desk.Remembers.run`: a row of calls logs in at the instants that are due.
`Desk.renews_when_due`: both for a desk with an empty vault.
-/

namespace DealDesk

namespace Gateway

/-- A login is answered with two tokens and an account. -/
def Access.Welcomed (a : Access) (n : Network) : Prop :=
  ∃ reply clientToken securityToken account, a.Answered n reply
    ∧ Access.Admits reply clientToken securityToken
    ∧ Account.codec.ofText reply.body = .ok account

namespace Desk

/-! ### Terms of a call -/

/-- Counted from an instant, the margin is over before the lifetime of a login is. -/
def Lasts (lifetime margin : Span) (login t : Instant) : Prop :=
  t.ticks + margin.nanos < login.ticks + lifetime.nanos

instance (lifetime margin : Span) (login t : Instant) :
    Decidable (Lasts lifetime margin login t) :=
  inferInstanceAs (Decidable (_ < _))

/-- The vault of the desk, if there is one, gives back the amounts of the session as they are. -/
def GivesBack (d : Desk) (s : Session) : Prop :=
  ∀ v, d.vault = some v → v.InMemory ∨ s.Faithful

/-- The desk is asked for a session at an instant, and nothing stands in its way. -/
structure Serves (d : Desk) (t : Instant) : Prop where
  plain : t.isLeap = false
  margin : (t.add? d.margin).isSome = true
  lifetime : (t.add? d.access.lifetime).isSome = true
  welcomed : d.Lacks t → d.access.Welcomed d.network
  givesBack : ∀ s, (d.authenticate t).1 = .ok s → d.GivesBack s

/-- A session from the vault is handed out, and nothing is sent or changed. -/
def Recalls (d : Desk) (t : Instant) : Prop :=
  ∃ s, d.Holds t s ∧ d.authenticate t = (.ok s, d)

/-- One login is sent, and its session is handed out. -/
def Renews (d : Desk) (t : Instant) : Prop :=
  ∃ s, (d.authenticate t).1 = .ok s
    ∧ (d.authenticate t).2.network.sent = d.network.sent ++ [d.access.loginMessage]
    ∧ t.add? d.access.lifetime = some s.expiry

/-- The vault of the desk keeps the session of the last login, or nothing before the first. -/
inductive Remembers (d : Desk) : Option Instant → Prop
  | nothing
      (v : Vault)
      (hvault : d.vault = some v)
      (hkeeps : v.Keeps none)
      (hload : v.load = .ok none) :
      Remembers d none
  | session
      (v : Vault)
      (s : Session)
      (login : Instant)
      (hvault : d.vault = some v)
      (hkeeps : v.Keeps (some s))
      (hload : v.load = .ok (some s))
      (hplain : login.isLeap = false)
      (hexpiry : login.add? d.access.lifetime = some s.expiry) :
      Remembers d (some login)

section Call

variable {d : Desk} {t : Instant} {last : Option Instant}

/-- Whether a session is valid is a matter of the nanoseconds of its login. -/
theorem isValidAt_iff_lasts
    {login : Instant} {s : Session} (hplain : login.isLeap = false)
    (hexpiry : login.add? d.access.lifetime = some s.expiry) (ht : t.isLeap = false)
    (hmargin : (t.add? d.margin).isSome = true) :
    s.isValidAt t d.margin = true ↔ Lasts d.access.lifetime d.margin login t := by
  obtain ⟨deadline, hdeadline⟩ := Option.isSome_iff_exists.1 hmargin
  have hbegin := hdeadline
  rw [Instant.add?_eq ht] at hbegin
  rw [Instant.add?_eq hplain] at hexpiry
  obtain ⟨hticks, hleap⟩ := Instant.ticks_ofTicks? hbegin
  obtain ⟨hticks', hleap'⟩ := Instant.ticks_ofTicks? hexpiry
  simp only [Session.isValidAt, hdeadline]
  rw [Instant.before_iff hleap hleap', hticks, hticks', Lasts]

/-- A desk in order holds a session exactly if its last login lasts. -/
theorem Remembers.holds_iff
    (h : d.Remembers last) (ht : t.isLeap = false)
    (hmargin : (t.add? d.margin).isSome = true) :
    (∃ s, d.Holds t s) ↔ ∃ login, last = some login ∧ Lasts d.access.lifetime d.margin login t := by
  cases h with
  | nothing v hvault hkeeps hload =>
      constructor
      · rintro ⟨s, hs⟩
        rw [Desk.holds_iff hvault, hload] at hs
        cases hs.1
      · rintro ⟨login, hlast, -⟩
        cases hlast
  | session v s login hvault hkeeps hload hplain hexpiry =>
      have hvalid := isValidAt_iff_lasts hplain hexpiry ht hmargin
      constructor
      · rintro ⟨s', hs'⟩
        rw [Desk.holds_iff hvault, hload] at hs'
        obtain ⟨hsame, hs'⟩ := hs'
        cases hsame
        exact ⟨login, rfl, hvalid.1 hs'⟩
      · rintro ⟨_, ⟨⟩, hlasts⟩
        exact ⟨s, (Desk.holds_iff hvault s).2 ⟨hload, hvalid.2 hlasts⟩⟩

theorem Remembers.not_baffled
    (h : d.Remembers last) (e : Vault.Fault) :
    ¬ d.Baffled e := by
  rintro ⟨v, hv, he⟩
  cases h with
  | nothing w hvault hkeeps hload =>
      cases hv.symm.trans hvault
      rw [hload] at he
      cases he
  | session w s login hvault hkeeps hload hplain hexpiry =>
      cases hv.symm.trans hvault
      rw [hload] at he
      cases he

theorem Remembers.exists_vault
    (h : d.Remembers last) :
    ∃ v slot, d.vault = some v ∧ v.Keeps slot := by
  cases h with
  | nothing v hvault hkeeps hload => exact ⟨v, none, hvault, hkeeps⟩
  | session v s login hvault hkeeps hload hplain hexpiry => exact ⟨v, some s, hvault, hkeeps⟩

/-- As long as the last login lasts, its session is handed out. -/
theorem Remembers.recalls
    (h : d.Remembers last) (hd : d.Serves t)
    (hlasts : ∃ login, last = some login ∧ Lasts d.access.lifetime d.margin login t) :
    d.Recalls t := by
  obtain ⟨s, hs⟩ := (h.holds_iff hd.plain hd.margin).2 hlasts
  exact ⟨s, hs, authenticate_of_holds hs⟩

/-- Once it does not, there is a login, and the desk remembers that one. -/
theorem Remembers.renews
    (h : d.Remembers last) (hd : d.Serves t)
    (hdue : ¬ ∃ login, last = some login ∧ Lasts d.access.lifetime d.margin login t) :
    d.Renews t ∧ (d.authenticate t).2.Remembers (some t)
      ∧ (d.authenticate t).2.access = d.access ∧ (d.authenticate t).2.margin = d.margin := by
  have hlacks : d.Lacks t := by
    refine ⟨h.not_baffled, fun s hs => hdue ?_⟩
    exact (h.holds_iff hd.plain hd.margin).1 ⟨s, hs⟩
  obtain ⟨reply, clientToken, securityToken, account, hreply, hadmits, hbody⟩ :=
    hd.welcomed hlacks
  obtain ⟨expiry, hexpiry⟩ := Option.isSome_iff_exists.1 hd.lifetime
  have hgives : d.access.LoginGives t d.network ⟨clientToken, securityToken, expiry, account⟩ :=
    ⟨reply, hreply, hadmits, hbody, hexpiry⟩
  obtain ⟨v, slot, hvault, hkeeps⟩ := h.exists_vault
  obtain ⟨hsave, hkept⟩ := hkeeps.save ⟨clientToken, securityToken, expiry, account⟩
  have hcall : d.authenticate t = (.ok ⟨clientToken, securityToken, expiry, account⟩,
      d.stocked v ⟨clientToken, securityToken, expiry, account⟩) := by
    rw [authenticate_of_gives hlacks hgives, keep, hvault]
    simp only [hsave]
    rfl
  have hleap : expiry.isLeap = false := by
    rw [Instant.add?_eq hd.plain] at hexpiry
    exact (Instant.ticks_ofTicks? hexpiry).2
  have hback := (hd.givesBack _ (congrArg Prod.fst hcall) v hvault).imp_right
    (Session.exact_iff_faithful hleap).2
  rw [hcall]
  refine ⟨⟨_, congrArg Prod.fst hcall, ?_, hexpiry⟩, ?_, rfl, rfl⟩
  · rw [hcall]
    simp only [stocked, spent, hreply.1, if_true]
  · exact .session _ _ t rfl hkept ((Vault.load_save_iff hsave).2 hback) hd.plain hexpiry

end Call

/-! ### Rows of calls -/

/-- The instants at which a desk that is asked at all of them sends a message. -/
def logins (d : Desk) (ts : List Instant) : List Instant :=
  ((Course.moments authenticate d ts).filter fun m =>
    m.before.network.sent.length < m.after.network.sent.length).map fun m => m.input

/-- The instants at which the last login, if there is one, does not last any more. -/
def due (lifetime margin : Span) : Option Instant → List Instant → List Instant
  | _, [] => []
  | last, t :: ts =>
      if last.any fun login => Lasts lifetime margin login t then due lifetime margin last ts
      else t :: due lifetime margin (some t) ts

theorem any_lasts_iff (lifetime margin : Span) (last : Option Instant) (t : Instant) :
    (last.any fun login => Lasts lifetime margin login t) = true
      ↔ ∃ login, last = some login ∧ Lasts lifetime margin login t := by
  simp [Option.any_eq_true]

/-- What a row of calls leaves behind. -/
structure Served (d : Desk) (last : Option Instant) (ts : List Instant) : Prop where
  remembers : (Course.finish authenticate d ts).Remembers ((d.logins ts).getLast?.or last)
  access : (Course.finish authenticate d ts).access = d.access
  margin : (Course.finish authenticate d ts).margin = d.margin
  logins : d.logins ts = due d.access.lifetime d.margin last ts
  sent : (Course.finish authenticate d ts).network.sent
    = d.network.sent ++ List.replicate (d.logins ts).length d.access.loginMessage

section Row

variable {d : Desk} {t : Instant} {last : Option Instant}

theorem logins_of_recalls
    (h : d.Recalls t) (ts : List Instant) :
    d.logins (t :: ts) = d.logins ts := by
  obtain ⟨s, -, hcall⟩ := h
  simp [logins, Course.moments, hcall]

theorem logins_of_renews
    (h : d.Renews t) (ts : List Instant) :
    d.logins (t :: ts) = t :: (d.authenticate t).2.logins ts := by
  obtain ⟨s, -, hsent, -⟩ := h
  simp [logins, Course.moments, hsent]

theorem getLast?_cons_or (t : Instant) (ts : List Instant) (last : Option Instant) :
    (t :: ts).getLast?.or last = ts.getLast?.or (some t) := by
  cases h : ts.getLast? <;> simp [List.getLast?_cons, h]

/-- A row of calls logs in at the instants that are due, and remembers the last of them. -/
theorem Remembers.run
    (h : d.Remembers last) {ts : List Instant}
    (hserves : ∀ m ∈ Course.moments authenticate d ts, m.before.Serves m.input) :
    d.Served last ts := by
  induction ts generalizing d last with
  | nil => exact ⟨h, rfl, rfl, rfl, (List.append_nil _).symm⟩
  | cons t ts ih =>
      have hhead : d.Serves t := hserves _ List.mem_cons_self
      have htail := fun m hm => hserves m (List.mem_cons_of_mem _ hm)
      by_cases hlasts : ∃ login, last = some login
          ∧ Lasts d.access.lifetime d.margin login t
      -- The desk is left as it was, and with it what it remembers.
      · have hrecalls := h.recalls hhead hlasts
        have hlogins := logins_of_recalls hrecalls ts
        obtain ⟨s, -, hcall⟩ := hrecalls
        have hafter : (d.authenticate t).2 = d := congrArg Prod.snd hcall
        rw [hafter] at htail
        obtain ⟨hremembers, haccess, hmargin, hdue, hsent⟩ := ih h htail
        constructor
        · rwa [Course.finish, hafter, hlogins]
        · rwa [Course.finish, hafter]
        · rwa [Course.finish, hafter]
        · rwa [hlogins, due, if_pos ((any_lasts_iff _ _ _ _).2 hlasts)]
        · rwa [Course.finish, hafter, hlogins]
      -- From here on it is this login that is remembered, on terms that stay the same.
      · obtain ⟨hrenews, hnow, hsame, hspan⟩ := h.renews hhead hlasts
        have hlogins := logins_of_renews hrenews ts
        obtain ⟨s, -, hmessage, -⟩ := hrenews
        obtain ⟨hremembers, haccess, hmargin, hdue, hsent⟩ := ih hnow htail
        constructor
        · rwa [Course.finish, hlogins, getLast?_cons_or]
        · rw [Course.finish, haccess, hsame]
        · rw [Course.finish, hmargin, hspan]
        · rw [hlogins, due, if_neg (mt (any_lasts_iff _ _ _ _).1 hlasts), hdue, hsame, hspan]
        · rw [Course.finish, hsent, hlogins, hmessage, hsame, List.length_cons,
            List.replicate_succ, List.append_assoc, List.singleton_append]

end Row

/-- A desk whose vault is still empty remembers nothing. -/
theorem remembers_of_fresh
    {d : Desk} {v : Vault} (hvault : d.vault = some v) (hfresh : v.Fresh) :
    d.Remembers none :=
  .nothing v hvault hfresh.keeps_none
    (hfresh.keeps_none.load fun s hs => (by cases hs))

/--
A desk with an empty vault is asked for a session at one instant after the other, in any
order.  A session comes out of the vault exactly while the last login before lasts, and at
every other instant one login is sent whose session expires a lifetime later.  So there are
as many messages as instants at which a login is due.
-/
theorem renews_when_due
    {d : Desk} {v : Vault} (hvault : d.vault = some v) (hfresh : v.Fresh) {ts : List Instant}
    (hserves : ∀ m ∈ Course.moments authenticate d ts, m.before.Serves m.input) :
    (∀ past t future, ts = past ++ t :: future →
      ((Course.finish authenticate d past).Recalls t
        ↔ ∃ login, (d.logins past).getLast? = some login
          ∧ Lasts d.access.lifetime d.margin login t)
      ∧ (¬ (Course.finish authenticate d past).Recalls t →
        (Course.finish authenticate d past).Renews t
          ∧ (Course.finish authenticate d past).access = d.access))
    ∧ d.logins ts = due d.access.lifetime d.margin none ts
    ∧ (Course.finish authenticate d ts).network.sent.length
      = d.network.sent.length + (due d.access.lifetime d.margin none ts).length := by
  have hbegin := remembers_of_fresh hvault hfresh
  have hrun := hbegin.run hserves
  refine ⟨?_, hrun.logins, ?_⟩
  · rintro past t future rfl
    rw [Course.moments_append] at hserves
    obtain ⟨hremembers, haccess, hmargin, -, -⟩ :=
      hbegin.run fun m hm => hserves m (List.mem_append_left _ hm)
    have hnow : (Course.finish authenticate d past).Serves t :=
      hserves _ (List.mem_append_right _ List.mem_cons_self)
    rw [Option.or_none] at hremembers
    constructor
    · rw [← haccess, ← hmargin]
      constructor
      · rintro ⟨s, hs, -⟩
        exact (hremembers.holds_iff hnow.plain hnow.margin).1 ⟨s, hs⟩
      · exact hremembers.recalls hnow
    · intro hnot
      have hdue := mt (hremembers.recalls hnow) hnot
      exact ⟨(hremembers.renews hnow hdue).1, haccess⟩
  · rw [hrun.sent, List.length_append, List.length_replicate, hrun.logins]

/-! ### Desks that are always served -/

/-- A desk whose every login is answered, with a vault in memory. -/
structure Settled (d : Desk) : Prop where
  welcomed : ∀ sent, d.access.Welcomed { d.network with sent }
  memory : ∃ v, d.vault = some v ∧ v.InMemory

section Settled

variable {d : Desk}

theorem access_authenticate (d : Desk) (t : Instant) :
    (d.authenticate t).2.access = d.access ∧ (d.authenticate t).2.margin = d.margin := by
  rcases d.baffled_or_holds_or_lacks t with ⟨e, he⟩ | ⟨s, hs⟩ | hlacks
  · rw [authenticate_of_baffled he]
    exact ⟨rfl, rfl⟩
  · rw [authenticate_of_holds hs]
    exact ⟨rfl, rfl⟩
  · rcases d.access.loginFails_or_loginGives t d.network with ⟨e, he⟩ | ⟨s, hs⟩
    · rw [authenticate_of_fails hlacks he]
      exact ⟨rfl, rfl⟩
    · rw [authenticate_of_gives hlacks hs, keep]
      cases d.vault <;> exact ⟨rfl, rfl⟩

/-- A session from a vault in memory is always the one that was put there. -/
theorem Settled.authenticate
    (h : d.Settled) (t : Instant) :
    (d.authenticate t).2.Settled := by
  obtain ⟨hwelcomed, v, hv, slot, hslot⟩ := h
  rcases d.baffled_or_holds_or_lacks t with ⟨e, he⟩ | ⟨s, hs⟩ | hlacks
  · rw [authenticate_of_baffled he]
    exact ⟨hwelcomed, v, hv, slot, hslot⟩
  · rw [authenticate_of_holds hs]
    exact ⟨hwelcomed, v, hv, slot, hslot⟩
  · have hspent : ∀ sent, d.access.Welcomed { d.spent with sent } := by
      intro sent
      rw [spent]
      split <;> exact hwelcomed sent
    rcases d.access.loginFails_or_loginGives t d.network with ⟨e, he⟩ | ⟨s, hs⟩
    · rw [authenticate_of_fails hlacks he]
      exact ⟨hspent, v, hv, slot, hslot⟩
    · rw [authenticate_of_gives hlacks hs, keep, hv]
      refine ⟨hspent, (v.save s).2, rfl, some s, ?_⟩
      simp only [Vault.save, hslot]

/-- Such a desk serves at all instants that are not too late for its terms. -/
theorem Settled.serves
    (h : d.Settled) {ts : List Instant}
    (hts : ∀ t ∈ ts, t.isLeap = false ∧ (t.add? d.margin).isSome = true
      ∧ (t.add? d.access.lifetime).isSome = true) :
    ∀ m ∈ Course.moments Desk.authenticate d ts, m.before.Serves m.input := by
  induction ts generalizing d with
  | nil => exact fun m hm => absurd hm List.not_mem_nil
  | cons t ts ih =>
      obtain ⟨⟨hplain, hmargin, hlifetime⟩, hrest⟩ := List.forall_mem_cons.1 hts
      obtain ⟨haccess, hspan⟩ := d.access_authenticate t
      rw [Course.moments, List.forall_mem_cons]
      constructor
      · obtain ⟨v, hv, hmemory⟩ := h.memory
        exact
          { plain := hplain
            margin := hmargin
            lifetime := hlifetime
            welcomed := fun _ => h.welcomed d.network.sent
            givesBack := fun s _ w hw => (by cases hv.symm.trans hw; exact .inl hmemory) }
      · refine ih (h.authenticate t) ?_
        rwa [haccess, hspan]

end Settled

/-- The desk of the specimen with a vault in memory, and a gateway that never tires. -/
def untiring : Desk :=
  { Scene.specimen.desk with
    network :=
      { answer := fun _ => Scene.specimen.desk.network.answer 0
        sent := [] }
    vault := some Vault.blank }

theorem settled_untiring : untiring.Settled where
  welcomed sent := by
    obtain ⟨s, ⟨reply, hanswered, hadmits, hbody, -⟩, -⟩ := Scene.loginGives_specimen
    exact ⟨reply, s.clientToken, s.securityToken, s.account, hanswered, hadmits, hbody⟩
  memory := ⟨Vault.blank, rfl, none, rfl⟩

theorem zero_day_mem : firstDay ≤ 0 ∧ 0 ≤ lastDay := by decide

theorem secondsPerDay_pos : 0 < secondsPerDay := by decide

theorem zero_nano_lt : 0 < 2 * nanosPerSecond := by decide

/-- An instant of the first day of the epoch. -/
def onFirstDay (second : Nat) : Instant where
  day := 0
  second := second % secondsPerDay
  nano := 0
  day_mem := zero_day_mem
  second_lt := Nat.mod_lt second secondsPerDay_pos
  nano_lt := zero_nano_lt

/-- An hour later, five minutes before the session expires, and back at the start. -/
def callsSpecimen : List Instant :=
  [onFirstDay 0, onFirstDay 3600, onFirstDay 21300, onFirstDay 0]

theorem serves_specimen :
    ∀ m ∈ Course.moments authenticate untiring callsSpecimen, m.before.Serves m.input :=
  settled_untiring.serves (by decide +kernel)

/-- At the start and five minutes before the end, which is the margin, there is a login. -/
theorem renews_when_due_specimen :
    untiring.vault = some Vault.blank ∧ Vault.blank.Fresh
      ∧ (∀ m ∈ Course.moments authenticate untiring callsSpecimen, m.before.Serves m.input)
      ∧ untiring.logins callsSpecimen
        = [onFirstDay 0, onFirstDay 21300] := by
  refine ⟨rfl, Vault.fresh_blank, serves_specimen, ?_⟩
  have hdue : due untiring.access.lifetime untiring.margin none callsSpecimen
      = [onFirstDay 0, onFirstDay 21300] := by decide +kernel
  rw [← hdue]
  exact (renews_when_due rfl Vault.fresh_blank serves_specimen).2.1

end Desk
end Gateway
end DealDesk
