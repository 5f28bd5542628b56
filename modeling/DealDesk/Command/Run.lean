import DealDesk.Command.Station
import DealDesk.Report.Answer

/-!
# Running commands

What each command does at a station, and how a run of the program goes: variables
are supplied from the nearest file, the log gets its file, and then the words are
understood and the command is carried out.  A trouble is reported at the end.

**Results.** A run in which no trouble arises ends with code 0, any other one does
not.
-/

namespace DealDesk
namespace Station

open Command (Trouble)

/-- What becomes of a command: a trouble or none, and the station after it. -/
abbrev Ending := Except Trouble Unit × Station

/-- A command that needs settings and secrets. -/
def withProfile (s : Station) (f : Profile → Ending) : Ending :=
  match Profile.load s.environment s.disk with
  | .error fault => (.error (.settings fault), s)
  | .ok p => f p

/-- A line for each rule of a table, below the name of the table. -/
def rulesReport (kind : RuleSet) : List String :=
  kind.name :: kind.describe.map fun r => "  " ++ Text.padRight 40 r.1 ++ " " ++ r.2

/-- A file is checked against the rules for its kind of request. -/
def validate (s : Station) (kind : RuleSet) (path : Disk.Path) : Ending :=
  match s.disk.read path with
  | .error fault => (.error (.unreadable path fault), s)
  | .ok content =>
      match Text.ofBytes? content with
      | none => (.error (.notText path), s)
      | some text =>
          match Ticket.ofText kind text with
          | .error fault => (.error (.notRequest path kind fault), s)
          | .ok ticket =>
              match ticket.violations with
              | [] =>
                  (.ok (),
                    s.say ("OK: " ++ path.text ++ " is a valid " ++ kind.name ++ " request"))
              | vs => (.error (.violations path vs.length), s.sayAll (vs.map Violation.line))

/-- The session that is in force is shown. -/
def login (s : Station) (p : Profile) : Ending :=
  match s.client p with
  | (.error trouble, s) => (.error trouble, s)
  | (.ok client, s) => (.ok (), s.sayAll (client.session.report s.now))

/-- The session that is kept is ended; if none is valid, what is kept is cleared. -/
def logout (s : Station) (p : Profile) : Ending :=
  match p.config.cacheTerms s.environment p.secrets with
  | .error fault => (.error (.settings fault), s)
  | .ok (store, margin) =>
      let r := (s.vault store).recover s.now margin
      let s := s.afterRecovery r
      match r.found with
      | .error fault => (.error (.vault fault), s)
      | .ok none =>
          match r.vault.clear with
          | (.error fault, v) => (.error (.vault fault), s.afterVault v)
          | (.ok (), v) => (.ok (), (s.afterVault v).say "No active session")
      | .ok (some session) =>
          match p.leave with
          | .error trouble => (.error trouble, s)
          | .ok access =>
              match (s.desk access r.vault margin).logout session with
              | (.error failure, d) => (.error (.gateway failure), s.afterDesk d)
              | (.ok (), d) => (.ok (), (s.afterDesk d).say "Logged out")

/-- The file of the session is removed; no key is needed for that. -/
def clearCache (s : Station) (p : Profile) : Ending :=
  match p.config.cache with
  | .memory => (.ok (), s.say "Memory cache selected; nothing to clear")
  | _ =>
      match p.config.vaultPath s.environment with
      | .error fault => (.error (.settings fault), s)
      | .ok path =>
          match (s.vault (.file ⟨path, .plain⟩)).clear with
          | (.error fault, v) => (.error (.vault fault), s.afterVault v)
          | (.ok (), v) => (.ok (), (s.afterVault v).say ("Cleared " ++ path.text))

/-- The answer to an operation is shown. -/
def ask (s : Station) (op : Gateway.Operation) (p : Profile) : Ending :=
  match s.client p with
  | (.error trouble, s) => (.error trouble, s)
  | (.ok client, s) =>
      match client.perform op s.network with
      | (.error e, network) => (.error (.gateway (.operation e)), { s with network })
      | (.ok answer, network) => (.ok (), { s with network }.say answer.report)

/-- A command is carried out. -/
def perform (s : Station) : Command → Ending
  | .help => (.ok (), s.sayAll Command.usage)
  | .generateKey => (.ok (), s.say (Vault.keyText s.freshKey))
  | .validate kind path => s.validate kind path
  | .rules kinds => (.ok (), s.sayAll (kinds.flatMap rulesReport))
  | .login => s.withProfile s.login
  | .logout => s.withProfile s.logout
  | .clearCache => s.withProfile s.clearCache
  | .positions => s.withProfile (s.ask .openPositions)
  | .orders => s.withProfile (s.ask .workingOrders)
  | .confirm reference => s.withProfile (s.ask (.dealConfirmation reference))

/-- The file of the log in its folder, named for the day. -/
def logPath (folder : String) (now : Instant) : Disk.Path :=
  (Disk.Path.mk folder).join ⟨"igtrade.log." ++ String.ofList now.dateText⟩

/-- The log gets its file, if the environment names a folder for it. -/
def openLog (s : Station) : Except Disk.Fault Unit × Station :=
  match s.environment.value? "IGTRADE_LOG_DIR" with
  | none => (.ok (), s)
  | some folder =>
      match s.disk.makeFolders ⟨folder⟩ with
      | (.error fault, disk) => (.error fault, { s with disk })
      | (.ok (), disk) =>
          let path := logPath folder s.now
          match disk.read path with
          | .ok _ => (.ok (), { s with disk })
          | .error _ =>
              match disk.write path [] with
              | .error fault => (.error fault, { s with disk })
              | .ok disk => (.ok (), { s with disk })

/-- How a run ends: its code, and the station after it. -/
def conclude : Ending → Nat × Station
  | (.ok (), s) => (0, s)
  | (.error trouble, s) => (1, s.warn (trouble.preface ++ [trouble.report]))

/-- The words are understood and the command is carried out. -/
def obey (s : Station) (words : List String) : Ending :=
  match Command.ofWords words with
  | .error fault => (.error (.words fault), s)
  | .ok command => s.perform command

/-- The code of a run whose log gets no file. -/
def noLogCode : Nat := 101

/-- A run of the program. -/
def run (s : Station) (words : List String) : Nat × Station :=
  let s := { s with environment := Settings.EnvFile.supplied s.environment s.disk }
  match s.openLog with
  | (.error fault, s) => (noLogCode, s.warn ["No file for the log: " ++ fault.message])
  | (.ok (), s) => conclude (s.obey words)

end Station
end DealDesk
