import RecordListing.Value.Basic

/-!
# Columns

A column has the name that callers use, the name it is stored under, and a type. The kind of a
column is the part of its type that callers may know.
-/

set_option autoImplicit false

namespace RecordListing

/-- The texts that a column of choices may hold. -/
inductive Choices
  /-- Plain texts. -/
  | labels (texts : List String)
  /-- Members of an enumeration, stored by value or by name. -/
  | members (all : List Member) (byName : Bool)
deriving Repr

namespace Choices

/-- The text that a member is stored as. -/
def storedText (byName : Bool) (m : Member) : String := if byName then m.name else m.value

/-- The stored texts, in order. -/
def texts : Choices → List String
  | .labels texts => texts
  | .members all byName => all.map (storedText byName)

end Choices

inductive ColumnType
  | text
  | uuid
  | integer
  /-- Numbers with a count of decimal places; an exact one is read back as a decimal. -/
  | numeric (places : Nat) (exact : Bool)
  | boolean
  | date
  | datetime (zoned : Bool)
  | choice (choices : Choices)
  | json
  | binary
deriving Repr

inductive ColumnKind
  | choice | integer | numeric | json | text | date | datetime | boolean | uuid | other
deriving DecidableEq, Repr

namespace ColumnKind

def name : ColumnKind → String
  | .choice => "enum"
  | .integer => "integer"
  | .numeric => "numeric"
  | .json => "json"
  | .text => "text"
  | .date => "date"
  | .datetime => "datetime"
  | .boolean => "boolean"
  | .uuid => "uuid"
  | .other => "other"

def isNumber (kind : ColumnKind) : Bool := kind = .integer ∨ kind = .numeric

end ColumnKind

namespace ColumnType

def kind : ColumnType → ColumnKind
  | .text => .text
  | .uuid => .uuid
  | .integer => .integer
  | .numeric _ _ => .numeric
  | .boolean => .boolean
  | .date => .date
  | .datetime _ => .datetime
  | .choice _ => .choice
  | .json => .json
  | .binary => .other

/-- The texts of a column of choices. -/
def choiceTexts : ColumnType → List String
  | .choice choices => choices.texts
  | _ => []

end ColumnType

/-- What a new row holds where nothing is given. -/
inductive Initial
  | nothing
  | fixed (value : Value)
  | currentTime
  /-- A key that no other row has. -/
  | generated

structure Column where
  property : String
  physical : String
  type : ColumnType
  initial : Initial := .nothing
  /-- Whether every change of a row sets the column to the current time. -/
  refreshed : Bool := false
  /-- Whether every row holds a value here. -/
  required : Bool := false
  /-- Whether no two rows may hold the same here. -/
  distinct : Bool := false

namespace Column

def kind (column : Column) : ColumnKind := column.type.kind

/-- A column stored under the name that callers use. -/
def plain (name : String) (type : ColumnType) : Column :=
  { property := name, physical := name, type }

/-- The column with a value that new rows hold where none is given. -/
def withInitial (column : Column) (value : Value) : Column :=
  { column with initial := .fixed value }

/-- The column, to be filled in every row. -/
def needed (column : Column) : Column := { column with required := true }

end Column

end RecordListing
