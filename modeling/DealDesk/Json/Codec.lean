import DealDesk.Json.Fault
import DealDesk.Json.Printer
import DealDesk.Json.Reader
import DealDesk.Number.Decimal.Double
import DealDesk.Number.Decimal.Reader
import DealDesk.Time.Stamp

/-!
# Values in documents

A codec reads the values of a type from documents and writes them into documents.
This module holds the codecs of single values, of optional values and of lists;
records are composed in `DealDesk.Json.Record`.

**Results.** The codecs of texts, of flags and of names read what they write, and so
does the codec of lists if that of the items does.
-/

namespace DealDesk
namespace Json

/-- How values of a type stand in documents. -/
structure Codec (α : Type) where
  read : Doc → Except Fault α
  write : α → Doc

namespace Codec

/-- The value reads back from what is written for it. -/
def ReadsBack {α : Type} (c : Codec α) (v : α) : Prop :=
  c.read (c.write v) = .ok v

/-- The value of a document after which nothing may follow. -/
def ofReading {α : Type} (c : Codec α) (reading : Reading) : Except Fault α :=
  match c.read reading.doc with
  | .error f => .error f.inText
  | .ok v => if reading.trailing then .error .malformed else .ok v

/-- The value of a text. -/
def ofText {α : Type} (c : Codec α) (s : String) : Except Fault α :=
  c.ofReading (readText s)

/-- The value of bytes. -/
def ofBytes {α : Type} (c : Codec α) (bs : List UInt8) : Except Fault α :=
  c.ofReading (readBytes bs)

@[simp] theorem ofBytes_bytes {α : Type} (c : Codec α) (s : String) :
    c.ofBytes (Text.bytes s) = c.ofText s := by
  rw [ofBytes, readBytes_bytes, ofText]

/-- The compact text of a value. -/
def text {α : Type} (c : Codec α) (v : α) : String :=
  (c.write v).compact

/-- The indented text of a value. -/
def indentedText {α : Type} (c : Codec α) (v : α) : String :=
  (c.write v).indented

/-- The codec of a type that is another one in different clothes. -/
def imap {α β : Type} (c : Codec α) (f : α → β) (g : β → α) : Codec β where
  read d := (c.read d).map f
  write v := c.write (g v)

/-- A string of a kind that has a name of its own in messages. -/
def textAs (wanted : String) : Codec String where
  read
    | .str (some s) => .ok s
    | d => .error (d.mismatch wanted)
  write s := .str (some s)

/-- A string. -/
def string : Codec String := textAs "a string"

/-- A truth value. -/
def flag : Codec Bool where
  read
    | .bool b => .ok b
    | d => .error (d.mismatch "a boolean")
  write b := .bool b

/-- A whole number within bounds. -/
def integer (low high : Int) (wanted : String) : Codec Int where
  read
    | .num n =>
        match Number.ofNumeral? n with
        | some (.whole i) =>
            if low ≤ i ∧ i ≤ high then .ok i else .error (.wrongValue (.whole i) wanted)
        | _ => .error ((Doc.num n).mismatch wanted)
    | d => .error (d.mismatch wanted)
  write i := .num (Numeral.ofInt i)

/-- A whole number of 32 bits with a sign. -/
def int32 : Codec Int32 :=
  (integer Int32.minValue.toInt Int32.maxValue.toInt "i32").imap Int32.ofInt Int32.toInt

/-- A whole number of 64 bits with a sign. -/
def int64 : Codec Int64 :=
  (integer Int64.minValue.toInt Int64.maxValue.toInt "i64").imap Int64.ofInt Int64.toInt

/-- The document of a double; what is no number is written as nothing. -/
def writeReal (f : Float) : Doc :=
  if f.isFinite then .num (Layout.wire.spell f) else .null

/-- A double. -/
def real : Codec Float where
  read
    | .num n =>
        match Number.ofNumeral? n with
        | some v => .ok v.toFloat
        | none => .error .malformed
    | d => .error (d.mismatch "f64")
  write := writeReal

/-- What is said where a decimal is wanted. -/
def decimalWanted : String := "a Decimal type representing a fixed-point number"

/-- A decimal, from a number or from a string. -/
def decimal : Codec Decimal where
  read
    | .num n =>
        match Number.ofNumeral? n with
        | some (.whole i) =>
            match Decimal.ofInt? i with
            | some d => .ok d
            | none => .error (.wrongValue (.whole i) decimalWanted)
        | some (.real f) =>
            match Decimal.ofFloat? f with
            | some d => .ok d
            | none => .error (.wrongValue (.real f) decimalWanted)
        | none => .error .malformed
    | .str (some s) =>
        match Decimal.ofText? s with
        | some d => .ok d
        | none => .error (.wrongValue (.text s) decimalWanted)
    | d => .error (d.mismatch decimalWanted)
  write d := writeReal d.toFloat

/-- An instant. -/
def instant : Codec Instant where
  read
    | .str (some s) =>
        match Instant.ofStamp? s with
        | some t => .ok t
        | none => .error .notAnInstant
    | d => .error (d.mismatch "an RFC 3339 formatted date and time string")
  write t := .str (some t.stamp)

/-- A value or nothing. -/
def optional {α : Type} (c : Codec α) : Codec (Option α) where
  read
    | .null => .ok none
    | d => (c.read d).map some
  write
    | none => .null
    | some v => c.write v

/-- The items of a list, each in its place. -/
def readItemsWith {α : Type} (read : Doc → Except Fault α) : List Doc → Except Fault (List α)
  | [] => .ok []
  | d :: r =>
      match read d with
      | .error f => .error f
      | .ok v => (readItemsWith read r).map (v :: ·)

/-- A list. -/
def list {α : Type} (c : Codec α) : Codec (List α) where
  read
    | .arr items => readItemsWith c.read items
    | d => .error (d.mismatch "a sequence")
  write vs := .arr (vs.map c.write)

/-- Names of the values of a type that has only a few. -/
structure Names (α : Type) where
  name : α → String
  all : List α
  /-- The value for a name that is not one of the others. -/
  other : Option α

namespace Names

/-- The value with a name. -/
def find? {α : Type} (n : Names α) (s : String) : Option α :=
  match n.all.find? fun v => n.name v = s with
  | some v => some v
  | none => n.other

/-- The value with a name, or the fault that there is none. -/
def resolve {α : Type} (n : Names α) (s : String) : Except Fault α :=
  match n.find? s with
  | some v => .ok v
  | none => .error (.unknownVariant s (n.all.map n.name))

/-- What may stand beside a name in an object. -/
def readNothing : Doc → Except Fault Unit
  | .null => .ok ()
  | d => .error (d.mismatch "unit")

end Names

/-- One of a few names: a string, or an object with that one name and nothing for it. -/
def named {α : Type} (n : Names α) : Codec α where
  read
    | .str (some s) => n.resolve s
    | .obj ((some s, d) :: r) =>
        match n.resolve s with
        | .error f => .error f
        | .ok v =>
            match Names.readNothing d with
            | .error f => .error f
            | .ok () => if r.isEmpty then .ok v else .error .malformed
    | .misnamed key => .error (key.mismatch "variant identifier")
    | _ => .error .malformed
  write v := .str (some (n.name v))

theorem readsBack_textAs (wanted s : String) :
    (textAs wanted).ReadsBack s := rfl

theorem readsBack_flag (b : Bool) :
    flag.ReadsBack b := rfl

theorem readItemsWith_map
    {α : Type} {c : Codec α} {vs : List α}
    (h : ∀ v ∈ vs, c.ReadsBack v) :
    readItemsWith c.read (vs.map c.write) = .ok vs := by
  induction vs with
  | nil => rfl
  | cons v vs ih =>
      have hv : c.read (c.write v) = .ok v := h v (by simp)
      simp [readItemsWith, hv, ih fun w hw => h w (by simp [hw]), Except.map]

theorem readsBack_list
    {α : Type} {c : Codec α} {vs : List α}
    (h : ∀ v ∈ vs, c.ReadsBack v) :
    (list c).ReadsBack vs :=
  readItemsWith_map h

theorem readsBack_named
    {α : Type} {n : Names α} {v : α} (h : n.find? (n.name v) = some v) :
    (named n).ReadsBack v := by
  simp [ReadsBack, named, Names.resolve, h]

end Codec
end Json
end DealDesk
