import DealDesk.Json.Document
import DealDesk.Number.Reading
import DealDesk.Number.Real
import DealDesk.Text.Quoted

/-!
# Faults of documents

Why a document does not give a value: its text is not a document, or its content
does not fit.  The wording of each cause stands in one place, `Fault.message`.  A text that
breaks the grammar has one wording, whatever it breaks and wherever that stands.
-/

namespace DealDesk
namespace Json

/-- What a document holds where something else is wanted. -/
inductive Found where
  | null
  | bool (b : Bool)
  | whole (n : Int)
  | real (f : Float)
  | text (s : String)
  | sequence
  | map

/-- Why a document does not give a value. -/
inductive Fault where
  /-- The text breaks the grammar; what it breaks, and in which line, is not told apart. -/
  | malformed
  | wrongType (found : Found) (wanted : String)
  | wrongValue (found : Found) (wanted : String)
  /-- A sequence ends before the value is complete. -/
  | tooShort (length : Nat) (wanted : String)
  /-- A sequence goes on after the value is complete. -/
  | tooLong (length taken : Nat)
  /-- A sequence that was set aside first goes on after the value is complete. -/
  | surplus (length taken : Nat)
  | unknownVariant (name : String) (known : List String)
  | missingMember (key : String)
  | repeatedMember (key : String)
  /-- A text that should be a timestamp is none. -/
  | notAnInstant

namespace Found

def message : Found → String
  | .null => "null"
  | .bool b => "boolean `" ++ (if b then "true" else "false") ++ "`"
  | .whole n => "integer `" ++ String.ofList (intText n) ++ "`"
  | .real f => "floating point `" ++ Layout.wire.text f ++ "`"
  | .text s => "string " ++ Text.quoted s
  | .sequence => "sequence"
  | .map => "map"

end Found

/-- Names in marks, two joined by a word and more in a row. -/
def oneOf : List String → String
  | [] => "there are no variants"
  | [a] => "expected `" ++ a ++ "`"
  | [a, b] => "expected `" ++ a ++ "` or `" ++ b ++ "`"
  | names => "expected one of " ++ String.intercalate ", " (names.map fun n => "`" ++ n ++ "`")

/-- A number of elements. -/
def elements (n : Nat) : String :=
  String.ofList (natText n) ++ (if n = 1 then " element" else " elements")

namespace Fault

/-- The wording for a sequence that goes on. -/
def surplusMessage (n taken : Nat) : String :=
  "invalid length " ++ String.ofList (natText n) ++ ", expected " ++ elements taken
    ++ " in sequence"

def message : Fault → String
  | .malformed => "invalid JSON"
  | .wrongType found wanted => "invalid type: " ++ found.message ++ ", expected " ++ wanted
  | .wrongValue found wanted => "invalid value: " ++ found.message ++ ", expected " ++ wanted
  | .tooShort n wanted =>
      "invalid length " ++ String.ofList (natText n) ++ ", expected " ++ wanted
  | .tooLong n taken => surplusMessage n taken
  | .surplus n taken => surplusMessage n taken
  | .unknownVariant name known => "unknown variant `" ++ name ++ "`, " ++ oneOf known
  | .missingMember key => "missing field `" ++ key ++ "`"
  | .repeatedMember key => "duplicate field `" ++ key ++ "`"
  | .notAnInstant => "invalid timestamp"

/-- The text itself is at fault, not what it holds. -/
def isMalformed : Fault → Bool
  | .malformed => true
  | _ => false

/--
A fault as it shows when the text is read in one go: a sequence that goes on is
then a fault of the text, because what follows the value was not to be read.
-/
def inText : Fault → Fault
  | .tooLong _ _ => .malformed
  | f => f

/-- A fault as it shows when the document was read as a whole and set aside first. -/
def setAside : Fault → Fault
  | .tooLong n taken => .surplus n taken
  | f => f

end Fault

namespace Doc

/-- The fault of a document where something else is wanted. -/
def mismatch (d : Doc) (wanted : String) : Fault :=
  match d with
  | .null => .wrongType .null wanted
  | .bool b => .wrongType (.bool b) wanted
  | .num n =>
      match Number.ofNumeral? n with
      | some (.whole i) => .wrongType (.whole i) wanted
      | some (.real f) => .wrongType (.real f) wanted
      | none => .malformed
  | .str (some s) => .wrongType (.text s) wanted
  | .str none => .malformed
  | .arr _ => .wrongType .sequence wanted
  | .obj _ => .wrongType .map wanted
  | .misnamed _ => .wrongType .map wanted
  | .broken => .malformed

end Doc
end Json
end DealDesk
