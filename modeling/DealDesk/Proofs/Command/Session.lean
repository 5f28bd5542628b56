import DealDesk.Command.Station
import DealDesk.Proofs.Gateway.Terms
import DealDesk.Proofs.Vault.Replacing

/-!
# The session of a station

A station that keeps its session in a file looks into that file twice: once to clear it if it
cannot be read, and once more before it logs in.  The second look finds nothing that the first
one did not leave, so there is at most one login, whatever was in the file.

**Results.** `Station.session_of_gives` and `Station.session_of_fails`: what becomes of a
station that has to log in.  `Station.session_settles`: where the session comes from, what is
sent and what becomes of the file, for all bytes that the file may have.
-/

namespace DealDesk

open Gateway Vault

/-! ### Profiles -/

/-- Settings and secrets suffice for a session that is kept in a file. -/
structure Profile.Equipped (p : Profile) (e : Environment) (safe : Safe) (margin : Span)
    (a : Access) : Prop where
  /-- The session is kept in the open, or sealed under the key of the secrets. -/
  mode : (p.config.cache = .file ∧ safe.protection = .plain)
    ∨ ∃ key, p.config.cache = .encryptedFile ∧ p.secrets.cacheKey = some key
      ∧ safe.protection = .sealed key
  path : p.config.vaultPath e = .ok safe.path
  url : a.baseUrl = trimmedUrl p.config.baseUrl
  identifier : p.config.identifier = some a.identifier
  apiKey : p.secrets.apiKey = some a.apiKey
  password : p.secrets.password = some a.password
  lifetime : p.config.lifetimeSpan = .ok a.lifetime
  margin : p.config.marginSpan = .ok margin

namespace Profile.Equipped

variable {p : Profile} {e : Environment} {safe : Safe} {margin : Span} {a : Access}

theorem cacheTerms (h : p.Equipped e safe margin a) :
    p.config.cacheTerms e p.secrets = .ok (.file safe, margin) := by
  have hstore : p.config.store e p.secrets = .ok (.file safe) := by
    have hpath := h.path
    obtain ⟨path, protection⟩ := safe
    rcases h.mode with ⟨hcache, hplain⟩ | ⟨key, hcache, hkey, hsealed⟩
    · obtain rfl : protection = .plain := hplain
      rw [Config.store, hcache, hpath]
      rfl
    · obtain rfl : protection = .sealed key := hsealed
      rw [Config.store, hcache, hkey, hpath]
      rfl
  rw [Config.cacheTerms, hstore, h.margin]
  rfl

theorem access_secrets (h : p.Equipped e safe margin a) :
    p.config.access p.secrets = .ok a := by
  rw [Config.access, h.identifier, h.apiKey, h.password, h.lifetime]
  simp only [Except.map, Access.ofUrl, ← h.url]

/-- Nobody is asked for a password that is among the secrets. -/
theorem access (h : p.Equipped e safe margin a) (typed : String → Option String) :
    p.access typed = .ok a := by
  have hsecrets : { p.secrets with password := some a.password } = p.secrets := by
    rw [← h.password]
  have hpassword : (p.secrets.password <|> typed p.prompt) = some a.password := by
    rw [h.password]
    rfl
  simp only [Profile.access, hpassword, hsecrets, h.access_secrets]

end Profile.Equipped

namespace Station

variable {s : Station} {p : Profile} {safe : Safe} {margin : Span} {a : Access}

/-! ### After the first look -/

/-- The second look finds no valid session, so the desk of the station lacks one. -/
theorem lacks_of_valid
    {v : Vault} {n : Network} {now : Instant} (hvalid : v.valid? now margin = .ok none) :
    (⟨a, n, some v, margin⟩ : Desk).Lacks now := by
  have hkept : (⟨a, n, some v, margin⟩ : Desk).kept now = .ok none := hvalid
  constructor
  · intro e he
    rw [Desk.kept_of_baffled he] at hkept
    cases hkept
  · intro kept hholds
    rw [Desk.kept_of_holds hholds] at hkept
    cases hkept

section Login

variable {discarded : Option Fault} {v : Vault}
  (hp : p.Equipped s.environment safe margin a)
  (hrecover : (s.vault (.file safe)).recover s.now margin = ⟨.ok none, discarded, v⟩)
  (hvalid : v.valid? s.now margin = .ok none)
include hp hrecover hvalid

/-- The session of a login goes into the vault that the first look left. -/
theorem session_of_gives
    {fresh : Session} (hgives : a.LoginGives s.now s.network fresh)
    (hsave : (v.save fresh).1 = .ok ()) :
    (s.session p).1 = .ok fresh
      ∧ (s.session p).2.network.sent = s.network.sent ++ [a.loginMessage]
      ∧ (s.session p).2.disk = (v.save fresh).2.disk
      ∧ (s.session p).2.warned = s.warned ++ discarded.toList.map discarding := by
  have hkey : Header.isValue a.apiKey = true := by
    obtain ⟨reply, hanswered, -⟩ := hgives
    exact hanswered.1
  let met := s.afterRecovery ⟨.ok none, discarded, v⟩
  have hdesk : (met.desk a v margin).authenticate met.now
      = (.ok fresh, (met.desk a v margin).stocked v fresh) :=
    Desk.authenticate_eq_stocked rfl (lacks_of_valid hvalid) hgives hsave
  have hsession : s.session p
      = (.ok fresh, met.afterDesk ((met.desk a v margin).stocked v fresh)) := by
    simp only [session, hp.cacheTerms, hrecover, hp.access, met, hdesk]
  rw [hsession]
  refine ⟨rfl, ?_, rfl, rfl⟩
  have hspent : (met.desk a v margin).spent
      = { s.network with sent := s.network.sent ++ [a.loginMessage] } := if_pos hkey
  exact congrArg Network.sent hspent

/-- If the login fails, the vault stays as the first look left it. -/
theorem session_of_fails
    {e : LoginFailure} (hfails : a.LoginFails s.now s.network e) :
    (s.session p).1 = .error (.gateway (.login e)) ∧ (s.session p).2.disk = v.disk := by
  let met := s.afterRecovery ⟨.ok none, discarded, v⟩
  have hdesk : (met.desk a v margin).authenticate met.now
      = (.error (.login e),
        { met.desk a v margin with network := (met.desk a v margin).spent }) :=
    Desk.authenticate_of_fails (lacks_of_valid hvalid) hfails
  have hsession : s.session p = (.error (.gateway (.login e)), met.afterDesk
      { met.desk a v margin with network := (met.desk a v margin).spent }) := by
    simp only [session, hp.cacheTerms, hrecover, hp.access, met, hdesk]
  rw [hsession]
  exact ⟨rfl, rfl⟩

end Login

/-! ### The first look -/

/-- The file keeps a session that is valid for the margin. -/
def Keeps (s : Station) (safe : Safe) (margin : Span) (kept : Session) : Prop :=
  safe.load s.disk = .ok (some kept) ∧ kept.isValidAt s.now margin = true

/-- What can be opened and is not valid is left for the second look. -/
theorem recover_of_stale
    {slot : Option Session} (hload : safe.load s.disk = .ok slot)
    (hstale : ∀ kept, ¬ s.Keeps safe margin kept) :
    (s.vault (.file safe)).valid? s.now margin = .ok none
      ∧ (s.vault (.file safe)).recover s.now margin
        = ⟨.ok none, none, s.vault (.file safe)⟩ := by
  have hvault : (s.vault (.file safe)).load = .ok slot := hload
  have hvalid : (s.vault (.file safe)).valid? s.now margin = .ok none := by
    rw [Vault.valid?, hvault]
    cases slot with
    | none => rfl
    | some kept =>
        have hnot : kept.isValidAt s.now margin = false := by
          rw [← Bool.not_eq_true]
          exact fun h => hstale kept ⟨hload, h⟩
        simp only [hnot]
        rfl
  exact ⟨hvalid, Vault.recover_of_valid hvalid⟩

/-- What is corrupted is cleared, and the second look finds no file. -/
theorem recover_of_corrupted
    {c : Corruption} (hload : safe.load s.disk = .error (.corrupted safe.path c))
    {cleared : Disk} (hclear : safe.clear s.disk = (.ok (), cleared)) :
    (s.vault (.file safe)).recover s.now margin
      = ⟨.ok none, some (.corrupted safe.path c),
        { s.vault (.file safe) with disk := cleared }⟩ := by
  have hvault : (s.vault (.file safe)).load = .error (.corrupted safe.path c) := hload
  have hcleared : (s.vault (.file safe)).clear
      = (.ok (), { s.vault (.file safe) with disk := cleared }) := by
    simp only [Vault.clear, vault, hclear]
  rw [Vault.recover, Vault.valid?, hvault]
  simp only [Fault.isCorruption, if_true, hcleared]

/-- A file that cannot be looked into is left alone. -/
theorem session_of_stuck
    (hp : p.Equipped s.environment safe margin a) {e : Disk.Fault}
    (hread : s.disk.read safe.path = .error e) (he : e ≠ .missing) :
    s.session p = (.error (.vault (.disk .readFile safe.path e)), s) := by
  have hload : safe.load s.disk = .error (.disk .readFile safe.path e) := by
    rw [Safe.load, hread]
    cases e with
    | missing => exact absurd rfl he
    | _ => rfl
  have hvault : (s.vault (.file safe)).load = .error (.disk .readFile safe.path e) := hload
  have hrecover : (s.vault (.file safe)).recover s.now margin
      = ⟨.error (.disk .readFile safe.path e), none, s.vault (.file safe)⟩ := by
    simp [Vault.recover, Vault.valid?, hvault, Fault.isCorruption]
  have hsame : s.afterRecovery
      ⟨.error (.disk .readFile safe.path e), none, s.vault (.file safe)⟩ = s := by
    simp [afterRecovery, afterVault, warn, vault]
  simp only [session, hp.cacheTerms, hrecover, hsame]

/-- A session that is kept and valid is handed out. -/
theorem session_of_keeps
    (hp : p.Equipped s.environment safe margin a) {kept : Session}
    (hkept : s.Keeps safe margin kept) :
    s.session p = (.ok kept, s) := by
  have hvault : (s.vault (.file safe)).load = .ok (some kept) := hkept.1
  refine session_of_kept hp.cacheTerms ?_
  simp only [Vault.valid?, hvault, hkept.2, if_true]

/-! ### Where the session comes from -/

/-- The file has some bytes, or there is none. -/
def Sees (s : Station) (safe : Safe) : Prop :=
  ∀ e, s.disk.read safe.path = .error e → e = .missing

/-- What is in a file that can be looked into, in three cases. -/
theorem keeps_or_stale_or_corrupted (hsees : s.Sees safe) (margin : Span) :
    (∃ kept, s.Keeps safe margin kept)
    ∨ (∃ slot, safe.load s.disk = .ok slot) ∧ (∀ kept, ¬ s.Keeps safe margin kept)
    ∨ ∃ c, safe.load s.disk = .error (.corrupted safe.path c) := by
  by_cases hkept : ∃ kept, s.Keeps safe margin kept
  · exact .inl hkept
  · have hstale : ∀ kept, ¬ s.Keeps safe margin kept := not_exists.1 hkept
    cases hread : s.disk.read safe.path with
    | error e =>
        obtain rfl := hsees e hread
        exact .inr (.inl ⟨⟨none, Safe.load_of_missing hread⟩, hstale⟩)
    | ok content =>
        rcases safe.load_cases hread with hcorrupted | ⟨kept, hload⟩
        · exact .inr (.inr hcorrupted)
        · exact .inr (.inl ⟨⟨some kept, hload⟩, hstale⟩)

/--
A session can be put into the safe, and the gateway answers a login with one whose amounts
read back from a file as they are.
-/
structure Served (s : Station) (safe : Safe) (a : Access) (fresh : Session) : Prop where
  grounded : s.disk.Grounded
  writable : safe.Writable s.disk
  gives : a.LoginGives s.now s.network fresh
  faithful : fresh.Faithful

/-- One login is made when the disk is as given, and its session replaces the file of the safe. -/
structure Renews (s : Station) (p : Profile) (safe : Safe) (a : Access) (fresh : Session)
    (before : Disk) (discarded : Option Fault) : Prop where
  answer : (s.session p).1 = .ok fresh
  sent : (s.session p).2.network.sent = s.network.sent ++ [a.loginMessage]
  stored : safe.load (s.session p).2.disk = .ok (some fresh)
  /-- What was in the file before the login is there until the new content is. -/
  replaced : safe.Replaces before (s.session p).2.disk (s.nonces s.drawn) fresh
  /-- If the login fails, this is how the disk stays. -/
  refused : ∀ n e, a.LoginFails s.now n e →
    (({ s with network := n } : Station).session p).2.disk = before
  warned : (s.session p).2.warned = s.warned ++ discarded.toList.map discarding

/-- A login after the first look renews the session on the disk that this one left. -/
theorem renews_of_recover
    (hp : p.Equipped s.environment safe margin a) {fresh : Session}
    (hserved : s.Served safe a fresh) {discarded : Option Fault} {before : Disk}
    (hrecover : (s.vault (.file safe)).recover s.now margin
      = ⟨.ok none, discarded, { s.vault (.file safe) with disk := before }⟩)
    (hvalid : ({ s.vault (.file safe) with disk := before } : Vault).valid? s.now margin
      = .ok none)
    (hwritable : safe.Writable before) :
    s.Renews p safe a fresh before discarded := by
  have hsave : (safe.save before (s.nonces s.drawn) fresh).1 = .ok () :=
    hwritable.save _ _
  obtain ⟨hanswer, hsent, hdisk, hwarned⟩ :=
    session_of_gives hp hrecover hvalid hserved.gives hsave
  have hafter : (s.session p).2.disk = (safe.save before (s.nonces s.drawn) fresh).2 := hdisk
  have hexact : fresh.Exact :=
    (Session.exact_iff_faithful (Config.isLeap_of_gives hp.access_secrets hserved.gives)).2
      hserved.faithful
  exact
    { answer := hanswer
      sent := hsent
      stored := by
        rw [hafter]
        exact (Safe.load_save_iff hsave).2 hexact
      replaced := by
        rw [hafter]
        exact Safe.replaces_of_save hsave
      refused := fun n e hfails =>
        (session_of_fails (s := { s with network := n }) hp hrecover hvalid hfails).2
      warned := hwarned }

/-- What is in the file and not valid any more is there until it is replaced. -/
theorem renews_of_stale
    (hp : p.Equipped s.environment safe margin a) {fresh : Session}
    (hserved : s.Served safe a fresh) {slot : Option Session}
    (hload : safe.load s.disk = .ok slot) (hstale : ∀ kept, ¬ s.Keeps safe margin kept) :
    s.Renews p safe a fresh s.disk none := by
  obtain ⟨hvalid, hrecover⟩ := recover_of_stale hload hstale
  exact renews_of_recover hp hserved hrecover hvalid hserved.writable

/-- A corrupted file is removed before the login. -/
theorem renews_of_corrupted
    (hp : p.Equipped s.environment safe margin a) {fresh : Session}
    (hserved : s.Served safe a fresh) {c : Corruption}
    (hload : safe.load s.disk = .error (.corrupted safe.path c)) :
    ∃ cleared, safe.clear s.disk = (.ok (), cleared)
      ∧ cleared.read safe.path = .error .missing
      ∧ s.Renews p safe a fresh cleared (some (.corrupted safe.path c)) := by
  obtain ⟨content, hread⟩ := Safe.read_of_corrupted hload
  obtain ⟨cleared, hclear, hmissing, hwritable⟩ :=
    Safe.clear_of_read hserved.grounded hserved.writable hread
  have hempty : ({ s.vault (.file safe) with disk := cleared } : Vault).load = .ok none :=
    Safe.load_of_missing hmissing
  have hvalid : ({ s.vault (.file safe) with disk := cleared } : Vault).valid? s.now margin
      = .ok none := by
    simp only [Vault.valid?, hempty]
  exact ⟨cleared, hclear, hmissing,
    renews_of_recover hp hserved (recover_of_corrupted hload hclear) hvalid hwritable⟩

/-- If nothing valid is kept, there is a login. -/
theorem exists_renews
    (hp : p.Equipped s.environment safe margin a) {fresh : Session}
    (hserved : s.Served safe a fresh) (hsees : s.Sees safe)
    (hnone : ¬ ∃ kept, s.Keeps safe margin kept) :
    ∃ before discarded, s.Renews p safe a fresh before discarded := by
  rcases keeps_or_stale_or_corrupted hsees margin with
    hkept | ⟨⟨slot, hload⟩, hstale⟩ | ⟨c, hload⟩
  · exact absurd hkept hnone
  · exact ⟨_, _, renews_of_stale hp hserved hload hstale⟩
  · obtain ⟨cleared, -, -, hrenews⟩ := renews_of_corrupted hp hserved hload
    exact ⟨_, _, hrenews⟩

/-- What becomes of a station that is asked for a session, and of the file that may keep one. -/
structure Settles (s : Station) (p : Profile) (safe : Safe) (margin : Span) (a : Access) :
    Prop where
  /-- A file that cannot be looked into is the answer, and the station stays as it is. -/
  stuck : ∀ e, s.disk.read safe.path = .error e → e ≠ .missing →
    s.session p = (.error (.vault (.disk .readFile safe.path e)), s)
  /-- What is kept and valid is handed out, and the station stays as it is. -/
  kept : ∀ session, s.Keeps safe margin session → s.session p = (.ok session, s)
  /-- A file with any bytes, and no file either, leads to a session. -/
  succeeds : ∀ fresh, s.Served safe a fresh → s.Sees safe →
    ∃ session, (s.session p).1 = .ok session
  /-- Nothing is sent and nothing is written exactly if something valid is kept. -/
  idle_iff : ∀ fresh, s.Served safe a fresh → s.Sees safe →
    ((s.session p).2.network.sent = s.network.sent ∧ (s.session p).2.disk = s.disk
      ↔ ∃ session, s.Keeps safe margin session)
  /-- What can be opened and is not valid stays until the session of a login replaces it. -/
  stale : ∀ fresh, s.Served safe a fresh → ∀ slot, safe.load s.disk = .ok slot →
    (∀ session, ¬ s.Keeps safe margin session) → s.Renews p safe a fresh s.disk none
  /-- What is corrupted is removed, then there is a login. -/
  corrupted : ∀ fresh, s.Served safe a fresh →
    ∀ c, safe.load s.disk = .error (.corrupted safe.path c) →
      ∃ cleared, safe.clear s.disk = (.ok (), cleared)
        ∧ cleared.read safe.path = .error .missing
        ∧ s.Renews p safe a fresh cleared (some (.corrupted safe.path c))

/--
A station with settings and secrets for a session in a file, whatever the file has: its session
is the one that is kept if that is valid for the margin, and otherwise the one of the only
login, which the file has afterwards.  No file is removed before that login but a corrupted
one, and a file that cannot be looked into ends it all.
-/
theorem session_settles
    (hp : p.Equipped s.environment safe margin a) :
    s.Settles p safe margin a := by
  have hkept : ∀ session, s.Keeps safe margin session → s.session p = (.ok session, s) :=
    fun session => session_of_keeps hp
  refine
    { stuck := fun e => session_of_stuck hp
      kept := hkept
      succeeds := ?_
      idle_iff := ?_
      stale := fun fresh hserved slot => renews_of_stale hp hserved
      corrupted := fun fresh hserved c => renews_of_corrupted hp hserved }
  · intro fresh hserved hsees
    by_cases hkeeps : ∃ session, s.Keeps safe margin session
    · obtain ⟨session, hkeeps⟩ := hkeeps
      exact ⟨session, congrArg Prod.fst (hkept session hkeeps)⟩
    · obtain ⟨_, _, hrenews⟩ := exists_renews hp hserved hsees hkeeps
      exact ⟨fresh, hrenews.answer⟩
  · intro fresh hserved hsees
    constructor
    · rintro ⟨hsent, -⟩
      by_contra hkeeps
      obtain ⟨_, _, hrenews⟩ := exists_renews hp hserved hsees hkeeps
      rw [hrenews.sent] at hsent
      simp at hsent
    · rintro ⟨session, hkeeps⟩
      rw [hkept session hkeeps]
      exact ⟨rfl, rfl⟩

section Specimen

/-- Settings with a session in the open, in a file of the folder that is worked in. -/
def profileSpecimen : Profile where
  config := { Config.standard with identifier := some "name", cachePath := some "session.json" }
  secrets := Config.secretsSpecimen

def safeSpecimen : Safe := ⟨⟨"session.json"⟩, .plain⟩

def accessSpecimen : Access :=
  Access.ofUrl "https://demo-api.ig.com" "key" "name" "secret" (Span.ofMinutes 360)

/-- A station with an empty file for its session, and a gateway that answers a login. -/
def specimen : Station where
  environment := ⟨[], none⟩
  disk := ⟨[], [(["session.json"], .file [] Disk.ownerMode)]⟩
  network := Network.scripted
    [.ok
      { status := 200
        headers := [Header.plain "cst" "client", Header.plain "x-security-token" "account"]
        body := "\x7b\"accountType\":\"\",\"accountInfo\":[1000.5,0.1,-12.25,0],"
          ++ "\"currencyIsoCode\":\"\",\"currentAccountId\":\"\",\"clientId\":\"\"\x7d" }]
    .noScheme
  now := Scene.specimen.now
  nonces := Vault.blank.nonces
  drawn := 0
  freshKey := ⟨List.replicate 32 1, List.length_replicate⟩
  said := []
  warned := []

theorem equipped_specimen :
    profileSpecimen.Equipped specimen.environment safeSpecimen (Span.ofSeconds 300)
      accessSpecimen where
  mode := .inl ⟨rfl, rfl⟩
  path := rfl
  url := rfl
  identifier := rfl
  apiKey := rfl
  password := rfl
  lifetime := rfl
  margin := rfl

theorem grounded_specimen : specimen.disk.Grounded := by
  intro spot hspot
  rw [List.prefix_nil.1 hspot]
  exact specimen.disk.hasFolder_root

theorem writable_specimen : safeSpecimen.Writable specimen.disk := by
  refine ⟨Vault.blank.nonces 0, .specimen, ?_⟩
  have hsome : (safeSpecimen.save specimen.disk (Vault.blank.nonces 0)
      .specimen).1.toOption.isSome = true := by decide +kernel
  cases hsave : (safeSpecimen.save specimen.disk (Vault.blank.nonces 0) .specimen).1 with
  | error fault =>
      rw [hsave] at hsome
      cases hsome
  | ok u => rfl

theorem loginGives_specimen :
    ∃ fresh, accessSpecimen.LoginGives specimen.now specimen.network fresh ∧ fresh.Faithful := by
  have hamounts : ((accessSpecimen.login specimen.now specimen.network).1.toOption.map
      Session.amounts) = some Session.specimen.amounts := by decide +kernel
  cases hlogin : (accessSpecimen.login specimen.now specimen.network).1 with
  | error e =>
      rw [hlogin] at hamounts
      cases hamounts
  | ok fresh =>
      rw [hlogin] at hamounts
      refine ⟨fresh, (Access.login_eq_ok_iff _).1 hlogin, ?_⟩
      rw [Session.Faithful, Option.some.inj hamounts]
      exact Session.faithful_specimen

/-- The station of the specimen has no session in its file, and comes to one by a login. -/
theorem session_settles_specimen :
    profileSpecimen.Equipped specimen.environment safeSpecimen (Span.ofSeconds 300)
        accessSpecimen
      ∧ (∃ fresh, specimen.Served safeSpecimen accessSpecimen fresh)
      ∧ specimen.disk.read safeSpecimen.path = .ok []
      ∧ specimen.Settles profileSpecimen safeSpecimen (Span.ofSeconds 300) accessSpecimen := by
  obtain ⟨fresh, hgives, hfaithful⟩ := loginGives_specimen
  exact ⟨equipped_specimen,
    ⟨fresh, grounded_specimen, writable_specimen, hgives, hfaithful⟩,
    by decide +kernel, session_settles equipped_specimen⟩

end Specimen

end Station
end DealDesk
