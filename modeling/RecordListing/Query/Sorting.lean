import RecordListing.Query.JoinPlan
import RecordListing.Text.Blank

/-!
# Sort order

Records are sorted by one field, of the root or of a related entity, descending unless the request
says otherwise.
-/

set_option autoImplicit false

namespace RecordListing

open Text

structure SortOrder where
  ascending : Bool
deriving DecidableEq, Repr

def SortOrder.name (order : SortOrder) : String := if order.ascending then "ASC" else "DESC"

/-- A capital letter for a small one; the long s has the capital of the s. -/
def capital (c : Char) : Char := if c.toNat = 0x17F then 'S' else c.toUpper

/-- The order that a request asks for, in any case of letters; descending if it asks for none. -/
def readSortOrder (value : Value) : Outcome SortOrder :=
  let word := if value.isNull then "" else String.ofList ((trimmed value.toText.toList).map capital)
  if word.isEmpty ∨ word = "DESC" then .ok ⟨false⟩
  else if word = "ASC" then .ok ⟨true⟩
  else refuse (.invalidSortOrder value)

structure Sorting where
  /-- The field as asked for, or the property it names. -/
  field : String
  column : ColumnRef
  order : SortOrder

/-- The column that records are sorted by when the field asked for is one of the root: the default
one for an empty field, and the first of the key if there is no such column. -/
def rootSortColumn (root : Entity) (field : String) (defaultField : Option String) :
    Outcome Column :=
  match (if field.isEmpty then defaultField else some field).bind root.column? with
  | some column => .ok column
  | none =>
    if field.isEmpty then
      match root.keyColumns.head? with
      | some column => .ok column
      | none => crashWith ⟨.missingAttribute, "no key"⟩
    else refuse (.unknownSortField field root.properties)

/-- The field to sort by without the blanks around it; what counts as nothing asks for none. -/
def readSortField (value : Value) : Outcome String :=
  match value with
  | .text s => .ok (trim s)
  | value =>
    if value.isNothing then .ok ""
    else crashWith (.noAttribute value "strip")

/-- The sorting that a request asks for. -/
def compileSorting (plan : JoinPlan) (sortBy sortOrder : Value) (defaultField : Option String) :
    Outcome Sorting := do
  let order ← readSortOrder sortOrder
  let field ← readSortField sortBy
  if (plan.root.relationHops field).isEmpty then
    let column ← rootSortColumn plan.root field defaultField
    return ⟨column.property, ⟨[], column⟩, order⟩
  else
    match plan.resolve field with
    | .error reason => refuse reason
    | .ok (_, column) => return ⟨field, column, order⟩

end RecordListing
