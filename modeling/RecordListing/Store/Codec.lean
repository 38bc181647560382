import RecordListing.Store.Cell
import RecordListing.Schema.Entity
import RecordListing.Json.OfValue
import RecordListing.Json.Reader
import RecordListing.Failure

/-!
# Values in cells

How a column stores the values of its type, and what it gives back. Points in time are stored as the
digits of day and wall clock, without an offset.
-/

set_option autoImplicit false

namespace RecordListing

open Text

/-! ## Storing -/

/-- A value stored as it comes. -/
def Value.toCell? : Value → Option Cell
  | .null => some .null
  | .bool b => some (.int (if b then 1 else 0))
  | .int n => some (.int n)
  | .float x => some (if x = .nan then .null else .real x)
  | .text s => some (.text s)
  | .member m => some (.text m.value)
  | .date d => some (.text d.text)
  | .datetime t => some (.text t.text)
  | _ => none

/-- The stored text of a choice: that of the member if the text is its value, else itself. -/
def Choices.storedFor (choices : Choices) (text : String) : String :=
  match choices with
  | .labels _ => text
  | .members all byName =>
    ((all.find? (·.value = text)).map (Choices.storedText byName)).getD text

/-- The cell of a choice in a new row. Where choices are stored by value, the database holds no
other text. -/
def Choices.storable? (choices : Choices) (text : String) : Option Cell :=
  let stored := choices.storedFor text
  match choices with
  | .members _ false => if choices.texts.contains stored then some (.text stored) else none
  | _ => some (.text stored)

/-- A number stored as a binary one. -/
def Value.toRealCell? : Value → Option Cell
  | .bool b => some (.real (.ofInt (if b then 1 else 0)))
  | .int n => some (.real (.ofInt n))
  | .float x => some (if x = .nan then .null else .real x)
  | .decimal d => some (.real (.ofDecimal d))
  | .special d => some (if d = .nan then .null else .real (.ofSpecial d))
  | .text s => (Binary64.ofText? (trim s)).map .real
  | _ => none

/-- Why a value has no cell. -/
inductive CellFault
  /-- The type cannot store the value. -/
  | unfit
  /-- The type stores values as they come, but no cell holds this one. -/
  | unheld
deriving DecidableEq, Repr

/-- The cell of a value of the right kind. -/
def ColumnType.fittingCell? (type : ColumnType) (value : Value) : Option Cell :=
  match type, value with
  | .json, value => (Json.ofValue? value).map fun j => .text j.encode
  | _, .null => some .null
  | .uuid, .uuid id => some (.text id.compact)
  | .numeric _ _, value => value.toRealCell?
  | .boolean, .bool b => some (.int (if b then 1 else 0))
  | .boolean, .int n => if n = 0 ∨ n = 1 then some (.int n) else none
  | .date, .date d => some (.text d.text)
  | .date, .datetime t => some (.text t.date.text)
  | .datetime _, .datetime t => some (.text t.wallText)
  | .choice choices, .member m => some (.text (choices.storedFor m.value))
  | .choice choices, .text s => some (.text (choices.storedFor s))
  | .text, value | .integer, value => value.toCell?
  | _, _ => none

/-- Whether the type stores values as they come. -/
def ColumnType.isOpen : ColumnType → Bool
  | .text | .integer => true
  | _ => false

/-- The cell of a value before a column takes it. -/
def ColumnType.rawCell (type : ColumnType) (value : Value) : Except CellFault Cell :=
  match type.fittingCell? value with
  | some cell => .ok cell
  | none => .error (if type.isOpen then .unheld else .unfit)

/-- The cell as a column of this type takes it. -/
def ColumnType.take (type : ColumnType) (cell : Cell) : Cell :=
  match type with
  | .text | .uuid | .choice _ => cell.asText
  | .binary => cell
  | _ => cell.asNumber

/-- The cell that a column of this type stores for a value. -/
def ColumnType.cell? (type : ColumnType) (value : Value) : Option Cell :=
  (type.fittingCell? value).map type.take

/-- Fails for values that the type cannot store. -/
def ColumnType.checkFit (type : ColumnType) (value : Value) : Outcome Unit :=
  match type.rawCell value with
  | .error .unfit => crashWith ⟨.badParameter, "value does not fit the column"⟩
  | _ => .ok ()

/-- Fails for values that cannot be given to the database. -/
def ColumnType.check (type : ColumnType) (value : Value) : Outcome Unit :=
  match type.rawCell value with
  | .error .unfit => crashWith ⟨.badParameter, "value does not fit the column"⟩
  | .error .unheld => crashWith ⟨.unknownParameter, "no cell holds such a value"⟩
  | .ok (.int n) =>
    if Cell.fitsInt n then .ok ()
    else crashWith ⟨.overflow, "Python int too large to convert to SQLite INTEGER"⟩
  | .ok _ => .ok ()

/-! ## Reading back -/

/-- A stored number with so many decimal places. -/
def fixedDecimal? (places : Nat) : Cell → Option Value
  | .int n => some (.decimal ⟨n < 0, n.natAbs * tenTo places, -places⟩)
  | .real (.infinite negative) => some (.special (.infinite negative))
  | .real x => (x.toFixed? places).map .decimal
  | _ => none

/-- The member that is stored as this text. -/
def Choices.valueOf (choices : Choices) (text : String) : Value :=
  match choices with
  | .labels _ => .text text
  | .members all byName =>
    ((all.find? fun m => Choices.storedText byName m = text).map Value.member).getD (.text text)

/-- The value of a cell without regard to its column. -/
def Cell.plainValue : Cell → Value
  | .null => .null
  | .int n => .int n
  | .real x => .float x
  | .text s => .text s

/-- The value that a column of this type gives back for a cell that it stored. Only such cells are
meant: a text that no value of the type is stored as is given back as it is, where reading it would
fail. -/
def ColumnType.value (type : ColumnType) (cell : Cell) : Value :=
  match type, cell with
  | _, .null => .null
  | .uuid, .text s => ((Uuid.read? s.toList).map Value.uuid).getD (.text s)
  | .numeric places true, cell => (fixedDecimal? places cell).getD cell.plainValue
  | .boolean, .int n => .bool (n != 0)
  | .date, .text s => ((Date.read s.toList).toOption.map Value.date).getD (.text s)
  | .datetime _, .text s => ((Timestamp.read? s.toList).map Value.datetime).getD (.text s)
  | .choice choices, .text s => choices.valueOf s
  | .json, .text s => ((Json.parse? s).map Json.toValue).getD (.text s)
  | _, cell => cell.plainValue

/-- The value that is read from a cell; a text that is none of the choices of its column cannot be
read. Other texts are taken to be as their column stores them. -/
def ColumnType.fetch (type : ColumnType) (cell : Cell) : Outcome Value :=
  match cell with
  | .text s =>
    if type.kind = .choice && !type.choiceTexts.contains s then
      crashWith ⟨.other "LookupError", quoted s ++ " is none of the choices"⟩
    else .ok (type.value cell)
  | cell => .ok (type.value cell)

end RecordListing
