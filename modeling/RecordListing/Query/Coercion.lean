import RecordListing.Failure
import RecordListing.Time.Iso
import RecordListing.Text.Case

/-!
# Coercion

A filter value is converted to the type of its column. Texts are read, blanks around them aside;
values that already have the type are kept.
-/

set_option autoImplicit false

namespace RecordListing

open Text

namespace Value

/-- The characters of a value's text without the blanks around it. -/
def trimmedText (value : Value) : List Char := trimmed value.toText.toList

/-- Whether the value is a text that names a whole day. -/
def isDateOnly : Value → Bool
  | .text s => RecordListing.isDateOnly s
  | _ => false

/-- Yes or no, in any case of letters. -/
def toBool? : Value → Option Bool
  | .bool b => some b
  | value =>
    let word := lowerAscii (String.ofList value.trimmedText)
    if word = "true" ∨ word = "1" ∨ word = "yes" then some true
    else if word = "false" ∨ word = "0" ∨ word = "no" then some false
    else none

/-- A whole number; a literal may have a fraction of zeros. It may be as long as its power of ten
makes it: memory has no bounds. -/
def toInt? : Value → Option Int
  | .bool _ => none
  | .int n => some n
  | value =>
    match readNumber value.toText true with
    | .ok d => some d.truncate
    | .error _ => none

/-- A number, kept exact or brought to the nearest binary one. -/
def toNumber? (exact : Bool) : Value → Option Value
  | .bool _ => none
  | value =>
    match readNumber value.toText false with
    | .ok d => some (if exact then .decimal d else .float (.ofDecimal d))
    | .error _ => none

def toUuid? : Value → Option Uuid
  | .uuid id => some id
  | value => Uuid.read? value.trimmedText

/-- A point in time. Where the column keeps offsets, a bare time is universal time. -/
def toTimestamp? (zoned : Bool) (value : Value) : Option Timestamp :=
  let bare? :=
    match value with
    | .datetime t => some t
    | .date d => some (.startOf d)
    | _ => Timestamp.read? value.trimmedText
  if zoned then bare?.map Timestamp.orUniversal else bare?

/-- A day; a point in time has one. -/
def toDate? : Value → Option Date
  | .datetime t => some t.date
  | .date d => some d
  | value =>
    if isDateShaped value.trimmedText then (Date.read value.trimmedText).toOption
    else (Timestamp.read? value.trimmedText).map Timestamp.date

/-- The text that a choice is compared by. -/
def choiceText? : Value → Option String
  | .text s => some s
  | .member m => some m.value
  | _ => none

end Value

/-- The member with this value. -/
def memberOf? (all : List Member) (text : String) : Option Member := all.find? (·.value = text)

/-- One of the choices: a member by its value, a label by itself. -/
def Choices.accept? (choices : Choices) (value : Value) : Option Value :=
  match value.choiceText? with
  | none => none
  | some text =>
    match choices with
    | .labels texts => if texts.contains text then some value else none
    | .members all _ => (memberOf? all text).map Value.member

/-- The value as one of the column's type, if it can be one. -/
def ColumnType.coerce? (type : ColumnType) (value : Value) : Option Value :=
  match type with
  | .integer => value.toInt?.map Value.int
  | .numeric _ exact => value.toNumber? exact
  | .boolean => value.toBool?.map Value.bool
  | .uuid => value.toUuid?.map Value.uuid
  | .datetime zoned => (value.toTimestamp? zoned).map Value.datetime
  | .date => value.toDate?.map Value.date
  | .choice choices => choices.accept? value
  | .text => some (.text value.toText)
  | .json | .binary => some value

/-- The value as one of the column's type, or the refusal that names the field. -/
def Column.coerce (column : Column) (path : String) (value : Value) : Except Refusal Value :=
  match column.type.coerce? value with
  | some coerced => .ok coerced
  | none => .error (.invalidFilterValue path column.kind)

end RecordListing
