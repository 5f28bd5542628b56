import DealDesk.Rules.Ticket

/-!
# What stands in the body of a request

The body of a request is an object with a member for each value that is given, in a fixed
order.  The listings here spell the members out, name by name, for the five kinds of
tickets; a value that is not given has no member.

**Results.** `Ticket.document_eq`: the document of a ticket is the object with the members of
its listing.
-/

namespace DealDesk

open Json

namespace Json

/-! ### Members and fields -/

/-- The members of an object, those that are missing included. -/
abbrev Listing := List (Option String × Doc)

namespace Listing

/-- A text under a name. -/
def text (key value : String) : Listing :=
  [(some key, .str (some value))]

/-- A truth value under a name. -/
def flag (key : String) (value : Bool) : Listing :=
  [(some key, .bool value)]

/-- A number under a name: the double next to it, as it is printed. -/
def number (key : String) (value : Decimal) : Listing :=
  [(some key,
    if value.toFloat.isFinite then .num (Layout.wire.spell value.toFloat) else .null)]

/-- A text under a name, if it is given. -/
def text? (key : String) (value : Option String) : Listing :=
  (value.map (text key)).getD []

/-- A number under a name, if it is given. -/
def number? (key : String) (value : Option Decimal) : Listing :=
  (value.map (number key)).getD []

end Listing

namespace Fields

theorem elided_string (key : String) (o : Option String) (rest : Listing) :
    (if o.isNone = true then rest
      else Doc.member key ((Codec.optional Codec.string).write o) :: rest)
      = Listing.text? key o ++ rest := by
  cases o <;> rfl

theorem elided_decimal (key : String) (o : Option Decimal) (rest : Listing) :
    (if o.isNone = true then rest
      else Doc.member key ((Codec.optional Codec.decimal).write o) :: rest)
      = Listing.number? key o ++ rest := by
  cases o <;> rfl

end Fields

end Json

/-! ### The five kinds -/

open Json.Listing

/-- What is said to open a position. -/
def Opening.listing (r : Opening) : Listing :=
  text "currencyCode" r.currencyCode ++ text "direction" r.direction.name
    ++ text "epic" r.epic ++ text "expiry" r.expiry ++ flag "forceOpen" r.forceOpen
    ++ flag "guaranteedStop" r.guaranteedStop ++ text "orderType" r.orderType.name
    ++ text "timeInForce" r.timeInForce.name ++ flag "trailingStop" r.trailingStop
    ++ number "size" r.size ++ text? "dealReference" r.dealReference
    ++ number? "level" r.level ++ number? "limitDistance" r.limitDistance
    ++ number? "limitLevel" r.limitLevel ++ text? "quoteId" r.quoteId
    ++ number? "stopDistance" r.stopDistance ++ number? "stopLevel" r.stopLevel
    ++ number? "trailingStopIncrement" r.trailingStopIncrement

/-- What is said to close a position. -/
def Closing.listing (r : Closing) : Listing :=
  text "direction" r.direction.name ++ text "orderType" r.orderType.name
    ++ number "size" r.size ++ text "timeInForce" r.timeInForce.name
    ++ text? "dealId" r.dealId ++ text? "epic" r.epic ++ text? "expiry" r.expiry
    ++ number? "level" r.level ++ text? "quoteId" r.quoteId

/-- What is said to amend a position. -/
def Amendment.listing (r : Amendment) : Listing :=
  flag "guaranteedStop" r.guaranteedStop ++ flag "trailingStop" r.trailingStop
    ++ number? "limitLevel" r.limitLevel ++ number? "stopLevel" r.stopLevel
    ++ number? "trailingStopDistance" r.trailingStopDistance
    ++ number? "trailingStopIncrement" r.trailingStopIncrement

/-- What is said to place a working order. -/
def Placement.listing (r : Placement) : Listing :=
  text "currencyCode" r.currencyCode ++ text "direction" r.direction.name
    ++ text "epic" r.epic ++ text "expiry" r.expiry ++ flag "forceOpen" r.forceOpen
    ++ flag "guaranteedStop" r.guaranteedStop ++ number "level" r.level
    ++ number "size" r.size ++ text "timeInForce" r.timeInForce.name
    ++ text "type" r.orderType.name ++ text? "dealReference" r.dealReference
    ++ text? "goodTillDate" r.goodTillDate ++ number? "limitDistance" r.limitDistance
    ++ number? "limitLevel" r.limitLevel ++ number? "stopDistance" r.stopDistance
    ++ number? "stopLevel" r.stopLevel

/-- What is said to revise a working order. -/
def Revision.listing (r : Revision) : Listing :=
  flag "guaranteedStop" r.guaranteedStop ++ number "level" r.level
    ++ text "timeInForce" r.timeInForce.name ++ text "type" r.orderType.name
    ++ text? "goodTillDate" r.goodTillDate ++ number? "limitDistance" r.limitDistance
    ++ number? "limitLevel" r.limitLevel ++ number? "stopDistance" r.stopDistance
    ++ number? "stopLevel" r.stopLevel

namespace Ticket

/-- What is said in the body of a request. -/
def listing : Ticket → Listing
  | .opening r => r.listing
  | .closing r => r.listing
  | .amendment r => r.listing
  | .placement r => r.listing
  | .revision r => r.listing

theorem write_opening (r : Opening) :
    Opening.codec.write r = .obj r.listing := by
  change Doc.obj (Fields.members Opening.fields _) = _
  simp only [Opening.fields, Fields.members, Field.required, Field.elided, Bool.false_eq_true,
    if_false, Fields.elided_string, Fields.elided_decimal, Opening.listing, List.append_assoc,
    List.append_nil]
  rfl

theorem write_closing (r : Closing) :
    Closing.codec.write r = .obj r.listing := by
  change Doc.obj (Fields.members Closing.fields _) = _
  simp only [Closing.fields, Fields.members, Field.required, Field.elided, Bool.false_eq_true,
    if_false, Fields.elided_string, Fields.elided_decimal, Closing.listing, List.append_assoc,
    List.append_nil]
  rfl

theorem write_amendment (r : Amendment) :
    Amendment.codec.write r = .obj r.listing := by
  change Doc.obj (Fields.members Amendment.fields _) = _
  simp only [Amendment.fields, Fields.members, Field.withDefault, Field.elided, Bool.false_eq_true,
    if_false, Fields.elided_decimal, Amendment.listing, List.append_assoc, List.append_nil]
  rfl

theorem write_placement (r : Placement) :
    Placement.codec.write r = .obj r.listing := by
  change Doc.obj (Fields.members Placement.fields _) = _
  simp only [Placement.fields, Fields.members, Field.required, Field.withDefault, Field.elided,
    Bool.false_eq_true, if_false, Fields.elided_string, Fields.elided_decimal, Placement.listing,
    List.append_assoc, List.append_nil]
  rfl

theorem write_revision (r : Revision) :
    Revision.codec.write r = .obj r.listing := by
  change Doc.obj (Fields.members Revision.fields _) = _
  simp only [Revision.fields, Fields.members, Field.required, Field.withDefault, Field.elided,
    Bool.false_eq_true, if_false, Fields.elided_string, Fields.elided_decimal, Revision.listing,
    List.append_assoc, List.append_nil]
  rfl

/-- The document of a ticket is the object with the members of its listing. -/
theorem document_eq (t : Ticket) :
    t.document = .obj t.listing := by
  cases t with
  | opening r => exact write_opening r
  | closing r => exact write_closing r
  | amendment r => exact write_amendment r
  | placement r => exact write_placement r
  | revision r => exact write_revision r

end Ticket
end DealDesk
