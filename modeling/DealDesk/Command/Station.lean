import DealDesk.Command.Trouble
import DealDesk.Settings.EnvFile

/-!
# Stations

A station is what a command works with: an environment, a disk, a network, the time, what
chance provides and whoever can be asked for a password.  It also keeps what the command
has said.  A profile holds
the settings and the secrets of a station.

**Results.** Whoever finds a valid session in the vault sends nothing and leaves the
disk as it is.
-/

namespace DealDesk

open Command (Trouble)

/-- The world of the command line: what a command works with, and what it has said. -/
structure Station where
  environment : Environment
  disk : Disk
  network : Gateway.Network
  now : Instant
  /-- The nonces in the order in which they are drawn. -/
  nonces : Nat → Cipher.Nonce
  drawn : Nat
  /-- A key that nobody has had before. -/
  freshKey : Cipher.Key
  /-- What is typed at a prompt; `none` if there is nobody to ask. -/
  typed : String → Option String := fun _ => none
  /-- Lines for whoever asked. -/
  said : List String
  /-- Lines on what went wrong. -/
  warned : List String

/-- The context of a command: the settings and the secrets that are in force. -/
structure Profile where
  config : Config
  secrets : Settings.Secrets

namespace Profile

/-- The profile of an environment and a disk: the settings first, then the secrets. -/
def load (e : Environment) (d : Disk) : Except Settings.Fault Profile :=
  match Config.path? e with
  | .error fault => .error fault
  | .ok path =>
      match Config.load d path with
      | .error fault => .error fault
      | .ok config =>
          (Settings.Secrets.ofEnvironment e).map fun secrets =>
            { config := config.overridden e, secrets }

/-- How the password is asked for. -/
def prompt (p : Profile) : String :=
  match p.config.identifier with
  | some identifier => "IG password for " ++ identifier ++ ": "
  | none => "IG password: "

/-- What it takes to log in; who has not given the password before is asked for it. -/
def access (p : Profile) (typed : String → Option String) : Except Trouble Gateway.Access :=
  match p.secrets.password <|> typed p.prompt with
  | none => .error .noPassword
  | some password =>
      match p.config.access { p.secrets with password := some password } with
      | .error fault => .error (.settings fault)
      | .ok access => .ok access

/-- What it takes to log out: as for a login, but no password. -/
def leave (p : Profile) : Except Trouble Gateway.Access :=
  let secrets := { p.secrets with password := p.secrets.password <|> some "" }
  match p.config.access secrets with
  | .error fault => .error (.settings fault)
  | .ok access => .ok access

end Profile

namespace Station

/-- One more line is said. -/
def say (s : Station) (line : String) : Station :=
  { s with said := s.said ++ [line] }

/-- More lines are said. -/
def sayAll (s : Station) (lines : List String) : Station :=
  { s with said := s.said ++ lines }

/-- More lines are said on what went wrong. -/
def warn (s : Station) (lines : List String) : Station :=
  { s with warned := s.warned ++ lines }

/-- The vault over a store, on the disk of the station. -/
def vault (s : Station) (store : Vault.Store) : Vault :=
  ⟨store, s.disk, s.nonces, s.drawn⟩

/-- The station after a vault was used. -/
def afterVault (s : Station) (v : Vault) : Station :=
  { s with disk := v.disk, drawn := v.drawn }

/-- A desk of the station, with a vault. -/
def desk (s : Station) (access : Gateway.Access) (v : Vault) (margin : Span) : Gateway.Desk :=
  ⟨access, s.network, some v, margin⟩

/-- The station after a desk was used. -/
def afterDesk (s : Station) (d : Gateway.Desk) : Station :=
  let s := { s with network := d.network }
  match d.vault with
  | none => s
  | some v => s.afterVault v

/-- What is said of a session that is discarded. -/
def discarding (fault : Vault.Fault) : String :=
  "Session cache unreadable (" ++ fault.message ++ "); discarded"

/-- The station after a vault was searched; what was discarded is told. -/
def afterRecovery (s : Station) (r : Vault.Recovery) : Station :=
  (s.afterVault r.vault).warn (r.discarded.toList.map discarding)

/--
A valid session: the one that is kept, or the one of a login.  What is kept and
cannot be read is discarded first.
-/
def session (s : Station) (p : Profile) : Except Trouble Session × Station :=
  match p.config.cacheTerms s.environment p.secrets with
  | .error fault => (.error (.settings fault), s)
  | .ok (store, margin) =>
      let r := (s.vault store).recover s.now margin
      let s := s.afterRecovery r
      match r.found with
      | .error fault => (.error (.vault fault), s)
      | .ok (some session) => (.ok session, s)
      | .ok none =>
          match p.access s.typed with
          | .error trouble => (.error trouble, s)
          | .ok access =>
              match (s.desk access r.vault margin).authenticate s.now with
              | (.error failure, d) => (.error (.gateway failure), s.afterDesk d)
              | (.ok session, d) => (.ok session, s.afterDesk d)

/-- A client in a valid session. -/
def client (s : Station) (p : Profile) : Except Trouble Gateway.Client × Station :=
  match s.session p with
  | (.error trouble, s) => (.error trouble, s)
  | (.ok session, s) =>
      match p.secrets.apiKey with
      | none => (.error (.settings .noApiKey), s)
      | some key => (.ok (Gateway.Client.ofUrl p.config.baseUrl key session), s)

theorem session_of_kept
    {s : Station} {p : Profile} {store : Vault.Store} {margin : Span} {session : Session}
    (ht : p.config.cacheTerms s.environment p.secrets = .ok (store, margin))
    (hv : (s.vault store).valid? s.now margin = .ok (some session)) :
    s.session p = (.ok session, s) := by
  have hs : s.afterRecovery ⟨.ok (some session), none, s.vault store⟩ = s := by
    simp [afterRecovery, afterVault, warn, vault]
  simp only [Station.session, ht, Vault.recover_of_valid hv, hs]

end Station
end DealDesk
