import RecordListing.Records.Access

/-!
# New rows

A new row takes values by property. What is not given is what its column says new rows hold; a row
that breaks a rule of its table is refused.
-/

set_option autoImplicit false

namespace RecordListing

/-! ## Cells -/

/-- What a value comes to that a column of this type cannot be given. -/
def unreadable (type : ColumnType) : CrashKind :=
  match type with
  | .json => .other "JSONDecodeError"
  | .numeric .. => .badDecimal
  | .uuid | .date | .datetime _ => .badValue
  | .choice _ => .brokenRule
  | _ => .badParameter

/-- The cell of a value that is given for a column. -/
def givenCell (column : Column) (value : Value) : Outcome Cell :=
  let read : Option Cell :=
    match column.type, value with
    | _, .null => some .null
    | .json, .text s => (Json.parse? s).map fun j => column.type.take (.text j.encode)
    | .choice choices, .text s => choices.storable? s
    | .text, value => ColumnType.text.cell? value
    | .integer, value => ColumnType.integer.cell? value
    | .boolean, value => ColumnType.boolean.cell? value
    | type, value => (type.coerce? value).bind type.cell?
  match read with
  | some cell => .ok cell
  | none => crashWith ⟨unreadable column.type, column.property⟩

/-- The number after all those in a column. -/
def nextNumber (rows : List Row) (column : Column) : Int :=
  rows.foldl (fun next row =>
    match row.cell column.physical with
    | .int n => max next (n + 1)
    | _ => next) 1

/-- An identifier counted down from the last one there is. -/
def freshUuid (rows : List Row) : Uuid := ⟨~~~ (BitVec.ofNat 128 rows.length)⟩

/-- The cell of a column for which nothing is given. -/
def initialCell (now : Timestamp) (rows : List Row) (column : Column) : Cell :=
  match column.initial with
  | .nothing => .null
  | .fixed value => (column.type.cell? value).getD .null
  | .currentTime => timeCell now
  | .generated =>
    if column.kind = .integer then .int (nextNumber rows column)
    else .text (freshUuid rows).compact

/-- The cell of a column in a new row. A number that is generated may also be given as nothing. -/
def newCell (now : Timestamp) (rows : List Row) (column : Column) (given : Option Value) :
    Outcome Cell :=
  match given, column.initial with
  | none, _ => .ok (initialCell now rows column)
  | some .null, .generated =>
    .ok (if column.kind = .integer then initialCell now rows column else .null)
  | some value, _ => givenCell column value

/-! ## Rows -/

/-- A new row from values by property, or by the name they are stored under. -/
def newRow (now : Timestamp) (rows : List Row) (entity : Entity) (values : List (String × Value)) :
    Outcome Row :=
  entity.columns.mapM fun column => do
    let given := (values.lookup column.property).orElse fun _ => values.lookup column.physical
    return (column.physical, ← newCell now rows column given)

/-- Whether the row holds what a column asks for, beside the rows that are there. -/
def isAllowed (rows : List Row) (entity : Entity) (row : Row) (column : Column) : Bool :=
  let cell := row.cell column.physical
  let filled := !cell.isNull || !(column.required || entity.key.contains column.property)
  let numbered :=
    match column.initial, column.type, cell with
    | .generated, .integer, .int _ => true
    | .generated, .integer, _ => false
    | _, _, _ => true
  filled && numbered &&
    !(column.distinct && rows.any fun other => (other.cell column.physical).same cell)

/-- Inserts a row. It is refused if a column does not allow it, or if its key is there already. -/
def Database.insertNew (db : Database) (now : Timestamp) (entity : Entity)
    (values : List (String × Value)) : Outcome Database := do
  let rows := db.rows entity.table
  let row ← newRow now rows entity values
  if entity.columns.all (isAllowed rows entity row) && !rows.any (sameKey entity row) then
    return db.insert entity.table row
  else crashWith ⟨.brokenRule, "a row breaks a rule of " ++ entity.table⟩

end RecordListing
