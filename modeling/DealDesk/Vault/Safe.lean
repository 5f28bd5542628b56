import DealDesk.Disk.Basic
import DealDesk.Vault.Protection

/-!
# Safes

A safe keeps one session in a file.  A new content is staged beside the file
first and then moved over it, so that the file holds the old content or the new
one and never a part of either.

A machine may refuse any step, for want of a right, of room or of a sound medium.  What was
staged is then dropped.

**Results.** A safe whose file is missing is empty.  On a machine that refuses nothing all is
done as the disk has it.
-/

namespace DealDesk
namespace Vault

open Json

/-- What is done with the disk. -/
inductive DiskStep where
  | createFolder
  | stageFile
  | writeFile
  | replaceFile
  | readFile
  | removeFile
deriving DecidableEq

namespace DiskStep

/-- The step in words. -/
def words : DiskStep → String
  | .createFolder => "create cache directory"
  | .stageFile => "create temp cache file"
  | .writeFile => "write temp cache file"
  | .replaceFile => "replace cache file"
  | .readFile => "read cache file"
  | .removeFile => "remove cache file"

end DiskStep

/-- Why a file is not the content of a safe. -/
inductive Corruption where
  | unreadable (fault : Json.Fault)
  | refused (refusal : Refusal)

namespace Corruption

/-- The wording of a corruption. -/
def message : Corruption → String
  | .unreadable fault => "unreadable cache file: " ++ fault.message
  | .refused refusal => refusal.message

end Corruption

/-- A cache error: why a session is not kept, not found or not given up. -/
inductive Fault where
  | corrupted (path : Disk.Path) (corruption : Corruption)
  | disk (step : DiskStep) (path : Disk.Path) (fault : Disk.Fault)

namespace Fault

def message : Fault → String
  | .corrupted path corruption =>
      "Session cache " ++ path.text ++ " is corrupted: " ++ corruption.message
  | .disk step path fault =>
      "Failed to " ++ step.words ++ " " ++ path.text ++ ": " ++ fault.message

def chain : Fault → List String
  | .corrupted path corruption => [message (.corrupted path corruption)]
  | .disk step path fault => [message (.disk step path fault), fault.message]

/-- The file is there, but its content is of no use. -/
def isCorruption : Fault → Bool
  | .corrupted _ _ => true
  | .disk _ _ _ => false

end Fault

/-- The file store: a file that keeps one session. -/
structure Safe where
  path : Disk.Path
  protection : Protection
deriving DecidableEq

namespace Safe

/-- The session that the bytes of the file keep. -/
def open? (safe : Safe) (content : List UInt8) : Except Fault Session :=
  match Content.codec.ofBytes content with
  | .error fault => .error (.corrupted safe.path (.unreadable fault))
  | .ok c =>
      match safe.protection.release c with
      | .error refusal => .error (.corrupted safe.path (.refused refusal))
      | .ok s => .ok s

/-- The session in the safe; none if there is no file. -/
def load (safe : Safe) (d : Disk) : Except Fault (Option Session) :=
  match d.read safe.path with
  | .error .missing => .ok none
  | .error e => .error (.disk .readFile safe.path e)
  | .ok content => (safe.open? content).map some

/-- The bytes of the file for a session. -/
def encoding (safe : Safe) (nonce : Cipher.Nonce) (s : Session) : List UInt8 :=
  Text.bytes (Content.codec.indentedText (safe.protection.keep nonce s))

/-- The folder that the file is in. -/
def folder (safe : Safe) : Disk.Path :=
  match safe.path.parent? with
  | none => ⟨"."⟩
  | some p => if p.text = "" then ⟨"."⟩ else p

/-- The folder of the file is made unless it is there. -/
def withFolder (safe : Safe) (d : Disk) : Except Fault Unit × Disk :=
  match safe.path.parent? with
  | none => (.ok (), d)
  | some p =>
      match d.makeFolders p with
      | (.error e, d) => (.error (.disk .createFolder p e), d)
      | (.ok (), d) => (.ok (), d)

/-- The start of the names of staged files. -/
def stagedStart (safe : Safe) : String :=
  "." ++ (safe.path.name?).getD "session" ++ ".tmp."

/-- A session is written beside the file. -/
def stage (safe : Safe) (d : Disk) (nonce : Cipher.Nonce) (s : Session) :
    Except Fault Disk.Place × Disk :=
  match safe.withFolder d with
  | (.error e, d) => (.error e, d)
  | (.ok (), d) =>
      match d.stage safe.folder safe.stagedStart (safe.encoding nonce s) with
      | .error e => (.error (.disk .stageFile safe.folder e), d)
      | .ok (staged, d) => (.ok staged, d)

/-- What was staged becomes the file; if it cannot, it is dropped. -/
def commit (safe : Safe) (d : Disk) (staged : Disk.Place) : Except Fault Unit × Disk :=
  match d.commit staged safe.path with
  | .error e => (.error (.disk .replaceFile safe.path e), d.cut staged)
  | .ok d => (.ok (), d)

/-- A session is put into the safe, in the place of the one that is there. -/
def save (safe : Safe) (d : Disk) (nonce : Cipher.Nonce) (s : Session) :
    Except Fault Unit × Disk :=
  match safe.stage d nonce s with
  | (.error e, d) => (.error e, d)
  | (.ok staged, d) => safe.commit d staged

/-- The safe is emptied. -/
def clear (safe : Safe) (d : Disk) : Except Fault Unit × Disk :=
  match d.remove safe.path with
  | .error .missing => (.ok (), d)
  | .error e => (.error (.disk .removeFile safe.path e), d)
  | .ok d => (.ok (), d)

theorem load_of_missing
    {safe : Safe} {d : Disk} (h : d.read safe.path = .error .missing) :
    safe.load d = .ok none := by
  simp [load, h]

end Safe

/-! ### Machines that refuse -/

/-- What a machine refuses, whatever stands on its disk. -/
abbrev Refusals := DiskStep → Option Disk.Fault

namespace Safe

/-- A machine that refuses nothing. -/
def granted : Refusals := fun _ => none

/-- What is loaded on a machine. -/
def loadOn (r : Refusals) (safe : Safe) (d : Disk) : Except Fault (Option Session) :=
  match r .readFile with
  | some e => .error (.disk .readFile safe.path e)
  | none => safe.load d

/-- The folder of the file is made on a machine; without a folder in the path it is not. -/
def withFolderOn (r : Refusals) (safe : Safe) (d : Disk) : Except Fault Unit × Disk :=
  match safe.path.parent?.bind fun p => (r .createFolder).map (Fault.disk .createFolder p) with
  | some fault => (.error fault, d)
  | none => safe.withFolder d

/-- The path of a staged file, from the root. -/
def stagedPath (safe : Safe) (d : Disk) (staged : Disk.Place) : Disk.Path :=
  d.herePath.join (safe.folder.join ⟨staged.getLast?.getD ""⟩)

/-- A session is written beside the file on a machine: first the file is made, then its bytes. -/
def stageOn (r : Refusals) (safe : Safe) (d : Disk) (nonce : Cipher.Nonce) (s : Session) :
    Except Fault Disk.Place × Disk :=
  match safe.withFolderOn r d with
  | (.error e, d) => (.error e, d)
  | (.ok (), d) =>
      match r .stageFile with
      | some e => (.error (.disk .stageFile safe.folder e), d)
      | none =>
          match d.stage safe.folder safe.stagedStart (safe.encoding nonce s) with
          | .error e => (.error (.disk .stageFile safe.folder e), d)
          | .ok (staged, d) =>
              match r .writeFile with
              | some e => (.error (.disk .writeFile (safe.stagedPath d staged) e), d.cut staged)
              | none => (.ok staged, d)

/-- What was staged becomes the file on a machine; if it cannot, it is dropped. -/
def commitOn (r : Refusals) (safe : Safe) (d : Disk) (staged : Disk.Place) :
    Except Fault Unit × Disk :=
  match r .replaceFile with
  | some e => (.error (.disk .replaceFile safe.path e), d.cut staged)
  | none => safe.commit d staged

/-- The safe is emptied on a machine. -/
def clearOn (r : Refusals) (safe : Safe) (d : Disk) : Except Fault Unit × Disk :=
  match r .removeFile with
  | some e => (.error (.disk .removeFile safe.path e), d)
  | none => safe.clear d

@[simp] theorem loadOn_granted (safe : Safe) (d : Disk) :
    safe.loadOn granted d = safe.load d := rfl

@[simp] theorem withFolderOn_granted (safe : Safe) (d : Disk) :
    safe.withFolderOn granted d = safe.withFolder d := by
  rw [withFolderOn]
  cases safe.path.parent? with
  | none => rfl
  | some p => rfl

@[simp] theorem stageOn_granted
    (safe : Safe) (d : Disk) (nonce : Cipher.Nonce) (s : Session) :
    safe.stageOn granted d nonce s = safe.stage d nonce s := by
  rw [stageOn, stage, withFolderOn_granted]
  rfl

@[simp] theorem commitOn_granted (safe : Safe) (d : Disk) (staged : Disk.Place) :
    safe.commitOn granted d staged = safe.commit d staged := rfl

@[simp] theorem clearOn_granted (safe : Safe) (d : Disk) :
    safe.clearOn granted d = safe.clear d := rfl

end Safe
end Vault
end DealDesk
