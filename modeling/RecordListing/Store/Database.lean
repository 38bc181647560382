import RecordListing.Store.Codec

/-!
# The database

Tables of rows by name. A row holds a cell for each physical column; one that it does not mention is
empty.
-/

set_option autoImplicit false

namespace RecordListing

/-- Cells by physical column. -/
abbrev Row := List (String × Cell)

namespace Row

def cell (row : Row) (column : String) : Cell := (row.lookup column).getD .null

/-- Sets the cell of a column. -/
def set (row : Row) (column : String) (cell : Cell) : Row := putEntry column cell row

/-- What the columns of the row give back, by property. -/
def values (row : Row) (entity : Entity) : List (String × Value) :=
  entity.columns.map fun column => (column.property, column.type.value (row.cell column.physical))

/-- Fails for a row that cannot be read. -/
def check (entity : Entity) (row : Row) : Outcome Unit :=
  entity.columns.forM fun column =>
    (column.type.fetch (row.cell column.physical)).map fun _ => ()

end Row

structure Database where
  tables : List (String × List Row)

namespace Database

def empty : Database := ⟨[]⟩

/-- The rows of a table; a table that was never filled has none. -/
def rows (db : Database) (table : String) : List Row := (db.tables.lookup table).getD []

/-- Replaces the rows of a table. -/
def withRows (db : Database) (table : String) (rows : List Row) : Database :=
  ⟨putEntry table rows db.tables⟩

def insert (db : Database) (table : String) (row : Row) : Database :=
  db.withRows table (db.rows table ++ [row])

/-- Changes every row of a table. -/
def mapRows (db : Database) (table : String) (f : Row → Row) : Database :=
  db.withRows table ((db.rows table).map f)

/-- Keeps only some rows of a table. -/
def filterRows (db : Database) (table : String) (keep : Row → Bool) : Database :=
  db.withRows table ((db.rows table).filter keep)

/-! ## Related rows -/

/-- The rows of a table whose column holds the same as the cell. -/
def rowsWith (db : Database) (table column : String) (cell : Cell) : List Row :=
  (db.rows table).filter fun row => (row.cell column).same cell

/-- The rows of `table` that a row is linked to. -/
def linked (db : Database) (link : Link) (table : String) (row : Row) : List Row :=
  match link with
  | .toOne foreignKey targetKey => db.rowsWith table targetKey (row.cell foreignKey)
  | .toMany ownerKey foreignKey => db.rowsWith table foreignKey (row.cell ownerKey)
  | .through between ownerKey ownerReference targetKey targetReference =>
    (db.rowsWith between ownerReference (row.cell ownerKey)).flatMap fun pair =>
      db.rowsWith table targetKey (pair.cell targetReference)

end Database

/-! ## Keys -/

/-- The cells of the primary key. -/
def Entity.keyOf (entity : Entity) (row : Row) : List Cell :=
  entity.keyColumns.map fun column => row.cell column.physical

/-- Order of keys, column by column. -/
def compareKeys : List Cell → List Cell → Ordering
  | [], [] => .eq
  | [], _ :: _ => .lt
  | _ :: _, [] => .gt
  | a :: as, b :: bs => (Cell.compare a b).then (compareKeys as bs)

/-- Whether a row comes before another by primary key, or has the same one. -/
def Entity.keyLe (entity : Entity) (a b : Row) : Bool :=
  compareKeys (entity.keyOf a) (entity.keyOf b) != .gt

/-- Rows by primary key. -/
def Entity.sortRows (entity : Entity) (rows : List Row) : List Row := rows.mergeSort entity.keyLe

/-- Whether the row is deleted, as far as the entity can tell. -/
def Entity.isDeleted (entity : Entity) (row : Row) : Bool :=
  match entity.deletionColumn? with
  | none => false
  | some column => !(row.cell column.physical).isNull

end RecordListing
