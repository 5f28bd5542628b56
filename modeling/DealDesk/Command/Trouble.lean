import DealDesk.Command.Basic
import DealDesk.Settings.Config

/-!
# What keeps a command from its work

A report on a trouble names it and, below that, what it came from, from the outside
in.  Causes are numbered unless there is only one, and each stands in from the left
with all its lines.

**Results.** A report on a trouble without causes is one sentence.
-/

namespace DealDesk
namespace Command

/-- What keeps a command from its work. -/
inductive Trouble where
  | words (fault : Fault)
  | settings (fault : Settings.Fault)
  | vault (fault : Vault.Fault)
  | gateway (failure : Gateway.Failure)
  /-- No password is given, and nothing is typed at the prompt for it. -/
  | noPassword
  | unreadable (path : Disk.Path) (fault : Disk.Fault)
  /-- The file does not hold text. -/
  | notText (path : Disk.Path)
  | notRequest (path : Disk.Path) (kind : RuleSet) (fault : Json.Fault)
  | violations (path : Disk.Path) (count : Nat)

namespace Trouble

def chain : Trouble → List String
  | .words fault => [fault.message]
  | .settings fault => fault.chain
  | .vault fault => fault.chain
  | .gateway failure => failure.chain
  | .noPassword =>
      ["Failed to read password (or set IG_PASSWORD)", "No such device or address (os error 6)"]
  | .unreadable path fault => ["Failed to read " ++ path.text, fault.message]
  | .notText path => ["Failed to read " ++ path.text, "stream did not contain valid UTF-8"]
  | .notRequest path kind fault =>
      [path.text ++ " is not a valid " ++ kind.name ++ " body", fault.message]
  | .violations path count =>
      [String.ofList (natText count) ++ " rule violation(s) in " ++ path.text]

/-- A text with something before its first line, and something before each other line. -/
def indented (first other : String) (s : String) : String :=
  match (Text.between (· = '\n') s.toList).map String.ofList with
  | [] => first
  | l :: ls => first ++ Text.lines (l :: ls.map (other ++ ·))

/-- A cause among others. -/
def numbered (n : Nat) (cause : String) : String :=
  indented (Text.padLeft 5 (String.ofList (natText n)) ++ ": ") "       " cause

/-- The causes below a trouble. -/
def causes : List String → List String
  | [] => []
  | [cause] => ["", "Caused by:", indented "    " "    " cause]
  | causes => "" :: "Caused by:" :: causes.mapIdx numbered

/-- What is reported of something that happened and what it came from. -/
def account : List String → String
  | [] => "Error: "
  | top :: below => Text.lines (("Error: " ++ top) :: causes below)

/-- What is reported of a trouble. -/
def report (t : Trouble) : String :=
  account t.chain

/-- Lines that stand before the report: who is not understood is told what can be asked for. -/
def preface : Trouble → List String
  | .words (.unknown _) => usage
  | _ => []

theorem account_singleton (top : String) :
    account [top] = "Error: " ++ top := by
  simp [account, causes, Text.lines]

example :
    account ["a", "b"] = "Error: a\n\nCaused by:\n    b" := by
  decide +kernel

example :
    account ["a", "b\nc", "d"] = "Error: a\n\nCaused by:\n    0: b\n       c\n    1: d" := by
  decide +kernel

end Trouble
end Command
end DealDesk
