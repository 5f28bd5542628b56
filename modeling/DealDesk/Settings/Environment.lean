import DealDesk.Disk.Path

/-!
# The environment of a run

Variables with their values, and the folders that follow from them.  A variable
and its value make one text, with an equals sign between them, and a value is what
stands in such a text behind a name and an equals sign.  So a name that holds an
equals sign itself may find the end of the value of a shorter name.

**Results.** What stands behind the name of a binding is its value.
-/

namespace DealDesk

/-- Names of variables and their values, and the home that the user's account has. -/
structure Environment where
  bindings : List (String × String)
  accountHome? : Option String

namespace Environment

/-- The text of a variable and its value. -/
def bindingText (binding : String × String) : List Char :=
  binding.1.toList ++ '=' :: binding.2.toList

/-- What stands in a binding behind a name and an equals sign. -/
def behind? (name : String) (binding : String × String) : Option String :=
  let front := name.toList ++ ['=']
  if front.isPrefixOf (bindingText binding) then
    some (String.ofList ((bindingText binding).drop front.length))
  else none

/-- The value of a variable. -/
def value? (e : Environment) (name : String) : Option String :=
  e.bindings.findSome? (behind? name)

/-- The value of a variable that is not empty. -/
def filled? (e : Environment) (name : String) : Option String :=
  (e.value? name).filter fun v => v ≠ ""

/-- A variable gets a value, unless it has one. -/
def supply (e : Environment) (name value : String) : Environment :=
  if (e.value? name).isSome then e
  else { e with bindings := e.bindings ++ [(name, value)] }

/-- The home of the user: the one that a variable names, or else that of the account. -/
def home? (e : Environment) : Option Disk.Path :=
  ((e.filled? "HOME").or e.accountHome?).map fun h => ⟨h⟩

/-- The folder that a variable names from the root, or else one in the home. -/
def folder? (e : Environment) (name inHome : String) : Option Disk.Path :=
  match (e.value? name).filter fun v => (Disk.Path.mk v).isAbsolute with
  | some v => some ⟨v⟩
  | none => e.home?.map fun h => h.join ⟨inHome⟩

/-- The folder for settings. -/
def configFolder? (e : Environment) : Option Disk.Path :=
  e.folder? "XDG_CONFIG_HOME" ".config"

/-- The folder for what can be made again. -/
def cacheFolder? (e : Environment) : Option Disk.Path :=
  e.folder? "XDG_CACHE_HOME" ".cache"

@[simp] theorem behind?_self (name value : String) :
    behind? name (name, value) = some value := by
  have h : bindingText (name, value) = (name.toList ++ ['=']) ++ value.toList := by
    simp [bindingText]
  rw [behind?, h, if_pos (List.isPrefixOf_iff_prefix.2 (List.prefix_append _ _)),
    List.drop_left, String.ofList_toList]

end Environment
end DealDesk
