import DealDesk.Command.Run
import Std.Time.DateTime.Timestamp

/-!
# The program

A station is set up from what the system has: the variables and the parts of the
disk that the words can lead to, the time, and bytes drawn at random.  After the run
its changes of the disk are made, and what it said is printed.  No way leads to a
gateway from here, so every request finds the network unreachable.
-/

namespace DealDesk
namespace Program

/-- Variables that are asked for by name. -/
def variableNames : List String :=
  ["HOME", "XDG_CONFIG_HOME", "XDG_CACHE_HOME", "IG_API_KEY", "IG_PASSWORD",
    "IG_IDENTIFIER", "IG_BASE_URL", "IG_CACHE_KEY", "IGTRADE_LOG_DIR"]

/-- What a file of variables may ask for: names that it assigns to, and names in its values. -/
def namesIn (content : List UInt8) : List String :=
  let cs := (Text.decoded content).filterMap id
  let names := Text.between (fun c => !Settings.EnvFile.Line.isNameChar c) cs
    ++ Text.between (fun c => !Text.isAlphanumeric c) cs
    ++ Text.between (fun c => c = '\x7b' || c = '\x7d') cs
  (names.map String.ofList).filter fun name => name ≠ ""

/-- The files of variables in the folder at a place and in the folders above it. -/
def variableFiles (spot : Disk.Place) : List Disk.Path :=
  (List.range (spot.length + 1)).map fun n =>
    ⟨"/" ++ String.intercalate "/" (spot.take n ++ [Settings.EnvFile.name])⟩

/-- The paths that the words of a run lead to, as far as the station knows by now. -/
def paths (s : Station) (words : List String) : List Disk.Path :=
  let e := Settings.EnvFile.supplied s.environment s.disk
  let settings := (Config.path? e).toOption.toList
  let vault := (Profile.load e s.disk).toOption.bind fun p => (p.config.vaultPath e).toOption
  let log := (e.value? "IGTRADE_LOG_DIR").map fun folder => Station.logPath folder s.now
  let given := match Command.ofWords words with
    | .ok (.validate _ path) => [path]
    | _ => []
  variableFiles s.disk.here ++ settings ++ vault.toList ++ log.toList ++ given

/-- The path of a place. -/
def rooted (spot : Disk.Place) : String :=
  "/" ++ String.intercalate "/" spot

/-- What stands at a place; what cannot be read as a file counts as a folder. -/
def look (spot : Disk.Place) : IO (Option Disk.Node) := do
  match ← (IO.FS.readBinFile (rooted spot)).toBaseIO with
  | .ok content => return some (.file content.toList Disk.openMode)
  | .error (.noFileOrDirectory ..) => return none
  | .error _ => return some (.folder Disk.folderMode)

/-- The disk with what stands along names from a place on. -/
def visit (d : Disk) (spot : Disk.Place) : List String → IO Disk
  | [] => return d
  | name :: r => do
      if name = ".." then visit d spot.dropLast r
      else
        let next := spot ++ [name]
        match d.node? next with
        | some (.file _ _) => return d
        | some (.folder _) => visit d next r
        | none =>
            match ← look next with
            | none => return d
            | some (.file content mode) => return d.put next (.file content mode)
            | some (.folder mode) => visit (d.put next (.folder mode)) next r

/-- The disk with what stands along paths. -/
def visitAll (d : Disk) (ps : List Disk.Path) : IO Disk :=
  ps.foldlM (fun d p => visit d (if p.isAbsolute then [] else d.here) p.names) d

/-- A node is made on the disk of the system. -/
def make (spot : Disk.Place) : Disk.Node → IO Unit
  | .folder _ => IO.FS.createDirAll (rooted spot)
  | .file content mode => do
      if mode = Disk.ownerMode then
        let staged := rooted spot ++ ".new"
        IO.FS.writeBinFile staged ⟨content.toArray⟩
        IO.setAccessRights staged { user := { read := true, write := true } }
        IO.FS.rename staged (rooted spot)
      else IO.FS.writeBinFile (rooted spot) ⟨content.toArray⟩

/-- The changes from one disk to another are made on the disk of the system. -/
def change (before after : Disk) : IO Unit := do
  for (spot, _) in before.nodes do
    if (after.node? spot).isNone then IO.FS.removeFile (rooted spot)
  for (spot, node) in after.nodes.reverse do
    if before.node? spot ≠ some node then make spot node

/-- The rows of a table whose fields are divided by a mark. -/
def rows (mark : Char → Bool) (content : List UInt8) : List (List String) :=
  let lines := Text.between (· = '\n') ((Text.decoded content).filterMap id)
  lines.map fun line => (Text.between mark line).map String.ofList

/-- The number of the user in what the system tells of a run. -/
def userNumber? (status : List UInt8) : Option String :=
  (rows (· = '\t') status).findSome? fun row =>
    if row.head? = some "Uid:" then row[1]? else none

/-- The home of the user with a number in the table of accounts. -/
def homeIn? (accounts : List UInt8) (number : String) : Option String :=
  (rows (· = ':') accounts).findSome? fun row =>
    if row[2]? = some number then row[5]? else none

/-- The home that the account of the user has. -/
def accountHome : IO (Option String) := do
  let status ← (IO.FS.readBinFile "/proc/self/status").toBaseIO
  let accounts ← (IO.FS.readBinFile "/etc/passwd").toBaseIO
  match status, accounts with
  | .ok status, .ok accounts =>
      return (userNumber? status.toList).bind (homeIn? accounts.toList)
  | _, _ => return none

/-- The environment with the values that the system has for names. -/
def gather (names : List String) : IO Environment := do
  let mut bindings := []
  for name in names do
    if let some value ← IO.getEnv name then bindings := (name, value) :: bindings
  return ⟨bindings, ← accountHome⟩

/-- The instant that the clock of the system shows. -/
def clock : IO (Option Instant) := do
  let t ← Std.Time.Timestamp.now
  return Instant.ofTicks? t.toNanosecondsSinceUnixEpoch.val

/-- The station of a run; none if the clock shows no instant or chance gives too few bytes. -/
def station (words : List String) : IO (Option Station) := do
  let here := (Disk.Path.mk (toString (← IO.currentDir))).names
  let empty : Disk := ⟨here, []⟩
  let disk ← visitAll empty (variableFiles here)
  let files := disk.nodes.flatMap fun n =>
    match n.2 with
    | .file content _ => namesIn content
    | .folder _ => []
  let environment ← gather (variableNames ++ files)
  let key := Cipher.Key.ofBytes? (← IO.getRandomBytes 32).toList
  let nonce := Cipher.Nonce.ofBytes? (← IO.getRandomBytes 24).toList
  match ← clock, key, nonce with
  | some now, some freshKey, some nonce =>
      let s : Station :=
        { environment, disk, network := Gateway.Network.unreachable, now
          nonces := fun _ => nonce, drawn := 0, freshKey, said := [], warned := [] }
      let s := { s with disk := ← visitAll s.disk (paths s words) }
      return some { s with disk := ← visitAll s.disk (paths s words) }
  | _, _, _ => return none

end Program
end DealDesk

/-- A run of the program; the result is its code. -/
def main (words : List String) : IO UInt32 := do
  match ← DealDesk.Program.station words with
  | none => return 1
  | some s =>
      let (code, after) := s.run words
      DealDesk.Program.change s.disk after.disk
      for line in after.said do IO.println line
      for line in after.warned do IO.eprintln line
      return UInt32.ofNat code
