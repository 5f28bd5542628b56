import DealDesk.Disk.Path
import DealDesk.Number.Digit
import DealDesk.Text.Utf8

/-!
# Folders and files

A disk is a tree of folders and files, kept as a list of nodes with the names
that lead to each from the root.  Operations take paths, and fail with the cause
that the names on the path give.  Rights, room and the medium are no part of the tree: a
machine may refuse an operation for want of them whatever stands on its disk.

**Results.** A node that was put at a place is found there and nowhere else, and
one that was cut is found no more.
-/

namespace DealDesk
namespace Disk

/-- The names that lead from the root to a node. -/
abbrev Place := List String

/-- A folder, or a file with its bytes; both with the permissions they have. -/
inductive Node where
  | folder (mode : Nat)
  | file (content : List UInt8) (mode : Nat)
deriving DecidableEq

namespace Node

def isFolder : Node → Bool
  | .folder _ => true
  | .file _ _ => false

def mode : Node → Nat
  | .folder m => m
  | .file _ m => m

end Node

/-- Permissions of a folder that everyone may look into. -/
def folderMode : Nat := 0o755

/-- Permissions of a file that everyone may read. -/
def openMode : Nat := 0o644

/-- Permissions of a file for its owner alone. -/
def ownerMode : Nat := 0o600

/-- Why an operation on the disk failed. -/
inductive Fault where
  | missing
  | exists
  | notFolder
  | isFolder
  | busy
  | longName
  /-- A path holds a NUL, with which names end. -/
  | nul
  /-- There is no right to do it. -/
  | denied
  | readOnly
  | noRoom
  /-- The medium fails. -/
  | broken
deriving DecidableEq

namespace Fault

def message : Fault → String
  | .missing => "No such file or directory (os error 2)"
  | .exists => "File exists (os error 17)"
  | .notFolder => "Not a directory (os error 20)"
  | .isFolder => "Is a directory (os error 21)"
  | .busy => "Device or resource busy (os error 16)"
  | .longName => "File name too long (os error 36)"
  | .nul => "file name contained an unexpected NUL byte"
  | .denied => "Permission denied (os error 13)"
  | .readOnly => "Read-only file system (os error 30)"
  | .noRoom => "No space left on device (os error 28)"
  | .broken => "Input/output error (os error 5)"

end Fault
end Disk

/-- A tree of folders and files, and the folder that is worked in. -/
structure Disk where
  here : Disk.Place
  nodes : List (Disk.Place × Disk.Node)
deriving DecidableEq

namespace Disk

/-- The path of the folder that is worked in. -/
def herePath (d : Disk) : Path :=
  ⟨"/" ++ String.intercalate "/" d.here⟩

/-- The node at a place; the root is always a folder. -/
def node? (d : Disk) (spot : Place) : Option Node :=
  if spot = [] then some (.folder folderMode)
  else (d.nodes.find? fun n => n.1 = spot).map Prod.snd

/-- The disk without the node at a place. -/
def cut (d : Disk) (spot : Place) : Disk :=
  { d with nodes := d.nodes.filter fun n => n.1 ≠ spot }

/-- The disk with a node at a place, in the place of what was there. -/
def put (d : Disk) (spot : Place) (n : Node) : Disk :=
  { d with nodes := (spot, n) :: (d.cut spot).nodes }

/-- The names of what stands in a folder. -/
def children (d : Disk) (spot : Place) : List String :=
  d.nodes.filterMap fun n =>
    match n.1.getLast? with
    | some name => if n.1.dropLast = spot then some name else none
    | none => none

/-- How many bytes a name may have. -/
def nameLimit : Nat := 255

/-- How many bytes a path may have. -/
def pathLimit : Nat := 4095

/-- What is wrong with the text of a path, whatever stands on the disk. -/
def textFault? (p : Path) : Option Fault :=
  if p.text.toList.contains '\x00' then some .nul
  else if pathLimit < (Text.bytes p.text).length then some .longName
  else none

/-- From a folder along names, all of which but the last have to be folders. -/
def walk (d : Disk) : Place → List String → Except Fault Place
  | spot, [] => .ok spot
  | spot, name :: r =>
      if name = ".." then d.walk spot.dropLast r
      else if nameLimit < (Text.bytes name).length then .error .longName
      else if r = [] then .ok (spot ++ [name])
      else
        match d.node? (spot ++ [name]) with
        | none => .error .missing
        | some (.file _ _) => .error .notFolder
        | some (.folder _) => d.walk (spot ++ [name]) r

/-- Where a path leads to; the empty path leads nowhere. -/
def locate (d : Disk) (p : Path) : Except Fault Place :=
  match textFault? p with
  | some e => .error e
  | none =>
      if p.text = "" then .error .missing
      else
        match d.walk (if p.isAbsolute then [] else d.here) p.names with
        | .error e => .error e
        | .ok spot =>
            match d.node? spot with
            | some (.file _ _) => if p.wantsFolder then .error .notFolder else .ok spot
            | some (.folder _) => .ok spot
            | none => if p.endsInPoint then .error .missing else .ok spot

/-- Something stands where a path leads to. -/
def isThere (d : Disk) (p : Path) : Bool :=
  match d.locate p with
  | .error _ => false
  | .ok spot => (d.node? spot).isSome

/-- The content of a file. -/
def read (d : Disk) (p : Path) : Except Fault (List UInt8) :=
  match d.locate p with
  | .error e => .error e
  | .ok spot =>
      match d.node? spot with
      | none => .error .missing
      | some (.folder _) => .error .isFolder
      | some (.file content _) => .ok content

/-- The names lead to a folder. -/
def isFolderAt (d : Disk) (spot : Place) (names : List String) : Bool :=
  match d.walk spot names with
  | .error _ => false
  | .ok place => ((d.node? place).map Node.isFolder).getD false

/-- The path ends in a slash behind a name, and the way to that name is open. -/
def endsBehindName (d : Disk) (p : Path) : Bool :=
  textFault? p = none && p.text ≠ "" && p.wantsFolder && !p.endsInPoint
    && d.isFolderAt (if p.isAbsolute then [] else d.here) p.names.dropLast

/--
The disk with a content in a file, which is made unless it is there.  Under a path that can
lead to nothing but a folder no file is written, whatever stands there.
-/
def write (d : Disk) (p : Path) (content : List UInt8) : Except Fault Disk :=
  match d.locate p with
  | .error e => if d.endsBehindName p then .error .isFolder else .error e
  | .ok spot =>
      if p.wantsFolder then .error .isFolder
      else
        match d.node? spot with
        | none =>
            match d.node? spot.dropLast with
            | some (.folder _) => .ok (d.put spot (.file content openMode))
            | some (.file _ _) => .error .notFolder
            | none => .error .missing
        | some (.folder _) => .error .isFolder
        | some (.file _ mode) => .ok (d.put spot (.file content mode))

/-- The disk without a file. -/
def remove (d : Disk) (p : Path) : Except Fault Disk :=
  match d.locate p with
  | .error e => .error e
  | .ok spot =>
      match d.node? spot with
      | none => .error .missing
      | some (.folder _) => .error .isFolder
      | some (.file _ _) => .ok (d.cut spot)

/-- The disk with one more folder, in one that is there. -/
def makeFolder (d : Disk) (spot : Place) (names : List String) : Except Fault Disk :=
  match d.walk spot names with
  | .error e => .error e
  | .ok place =>
      match d.node? place with
      | some _ => .error .exists
      | none =>
          match d.node? place.dropLast with
          | some (.folder _) => .ok (d.put place (.folder folderMode))
          | some (.file _ _) => .error .notFolder
          | none => .error .missing

/-- A folder is made unless it is there. -/
def ensureFolder (d : Disk) (spot : Place) (names : List String) : Except Fault Disk :=
  match d.makeFolder spot names with
  | .ok d => .ok d
  | .error e => if d.isFolderAt spot names then .ok d else .error e

/-- All folders along names are made that are not there, until one cannot be made. -/
def ensureAll (d : Disk) (spot : Place) (names : List String) : Except Fault Unit × Disk :=
  match d.ensureFolder spot names with
  | .ok d => (.ok (), d)
  | .error e =>
      if e = .missing ∧ names ≠ [] then
        match d.ensureAll spot names.dropLast with
        | (.error e, d) => (.error e, d)
        | (.ok (), d) =>
            match d.ensureFolder spot names with
            | .ok d => (.ok (), d)
            | .error e => (.error e, d)
      else (.error e, d)
termination_by names.length
decreasing_by
  rename_i h
  have := List.length_pos_iff.2 h.2
  simp only [List.length_dropLast]
  omega

/-- All folders on a path are made that are not there, until one cannot be made. -/
def makeFolders (d : Disk) (p : Path) : Except Fault Unit × Disk :=
  match textFault? p with
  | some e => (.error e, d)
  | none =>
      if p.text = "" then (.ok (), d)
      else d.ensureAll (if p.isAbsolute then [] else d.here) p.names

/-- A name in a folder that nothing has, made of a start and a number. -/
def freshName (d : Disk) (spot : Place) (start : String) : String :=
  let names := (List.range (d.nodes.length + 1)).map fun n =>
    start ++ String.ofList (natText n)
  (names.find? fun name => (d.node? (spot ++ [name])).isNone).getD start

/-- How many bytes a staged file adds to the start of its name. -/
def endingLength : Nat := 6

/-- What is wrong with the start of the name of a staged file. -/
def startFault? (start : String) : Option Fault :=
  if start.toList.contains '\x00' then some .nul
  else if nameLimit < (Text.bytes start).length + endingLength then some .longName
  else none

/-- A new file for its owner alone in a folder, and the disk with it. -/
def stage (d : Disk) (folder : Path) (start : String) (content : List UInt8) :
    Except Fault (Place × Disk) :=
  match d.locate folder with
  | .error e => .error e
  | .ok spot =>
      match d.node? spot with
      | none => .error .missing
      | some (.file _ _) => .error .notFolder
      | some (.folder _) =>
          match startFault? start with
          | some e => .error e
          | none =>
              let place := spot ++ [d.freshName spot start]
              .ok (place, d.put place (.file content ownerMode))

/-- A staged file is moved to where a path leads, over a file that is there. -/
def commit (d : Disk) (staged : Place) (p : Path) : Except Fault Disk :=
  match d.locate p, d.node? staged with
  | .error e, _ => .error e
  | .ok _, none => .error .missing
  | .ok spot, some n =>
      if p.isFixed then .error .busy
      else if p.wantsFolder then .error .notFolder
      else
        match d.node? spot with
        | some (.folder _) => .error .isFolder
        | _ => .ok ((d.cut staged).put spot n)

theorem node?_put_self (d : Disk) {spot : Place} (n : Node) (h : spot ≠ []) :
    (d.put spot n).node? spot = some n := by
  simp [node?, put, h]

theorem node?_put_of_ne (d : Disk) {a b : Place} (n : Node) (h : b ≠ a) :
    (d.put a n).node? b = d.node? b := by
  have hab : ¬ a = b := fun e => h e.symm
  unfold node? put cut
  split
  · rfl
  · simp only [List.find?_cons, hab, decide_false, List.find?_filter]
    congr 2
    funext x
    by_cases hx : x.1 = b <;> simp [hx, h]

theorem node?_cut_self (d : Disk) {spot : Place} (h : spot ≠ []) :
    (d.cut spot).node? spot = none := by
  simp [node?, cut, h]

theorem node?_cut_of_ne (d : Disk) {a b : Place} (h : b ≠ a) :
    (d.cut a).node? b = d.node? b := by
  unfold node? cut
  split
  · rfl
  · simp only [List.find?_filter]
    congr 2
    funext x
    by_cases hx : x.1 = b <;> simp [hx, h]

end Disk
end DealDesk
