import RecordListing.Records.Listed

/-!
# Single records

A record is found by the first column of its primary key. It is deleted for good, with the
references of its collections cleared, or marked as deleted. Deleted records are not found unless
they are asked for.
-/

set_option autoImplicit false

namespace RecordListing

/-- The rows whose key begins with this value; deleted ones only if they are asked for. -/
def rowsAt (db : Database) (entity : Entity) (column : Column) (key : Value) (withDeleted : Bool) :
    List Row :=
  (db.rowsWith entity.table column.physical ((column.type.cell? key).getD .null)).filter fun row =>
    withDeleted || !entity.isDeleted row

/-- Checks the requested relations and the key of a record. -/
def checkAccess (registry : Registry) (entity : Entity) (id : Value) (relations : List String) :
    Outcome (Column × Value) := do
  match JoinPlan.build registry entity (relations.filter fun path => !path.isEmpty) [] with
  | .error reason => refuse reason
  | .ok _ =>
    match entity.keyColumns.head? with
    | none => crashWith ⟨.missingAttribute, "no key"⟩
    | some column =>
      match column.coerce column.property id with
      | .error reason => refuse reason
      | .ok key => return (column, key)

/-- Finds the row of an entity by its key. -/
def findRow (db : Database) (registry : Registry) (entity : Entity) (id : Value)
    (relations : List String) (withDeleted : Bool) : Outcome Row := do
  let (column, key) ← checkAccess registry entity id relations
  column.type.check key
  let rows := rowsAt db entity column key withDeleted
  rows.forM (Row.check entity)
  match rows with
  | [] => refuse (.recordNotFound entity.name id)
  | [row] => return row
  | _ => crashWith ⟨.severalRows, "Multiple rows were found when one or none was required"⟩

/-- Finds a record of a registered entity by its key. -/
def findRecord (db : Database) (registry : Registry) (entity : String) (id : Value)
    (relations : List String) (withDeleted : Bool) : Outcome (Entity × Row) := do
  let entity ← registry.get entity
  let row ← findRow db registry entity id relations withDeleted
  return (entity, row)

/-! ## Changes -/

/-- The cell of the current time. -/
def timeCell (now : Timestamp) : Cell := .text now.wallText

/-- Sets the columns that every change sets. -/
def refresh (now : Timestamp) (entity : Entity) (row : Row) : Row :=
  entity.refreshedColumns.foldl (fun row column => row.set column.physical (timeCell now)) row

/-- Whether two rows have the same primary key. -/
def sameKey (entity : Entity) (a b : Row) : Bool :=
  compareKeys (entity.keyOf a) (entity.keyOf b) == .eq

/-- Clears the references of the rows of one relation to a row that goes away. A row in between goes
with it, unless what it leads to is not there. -/
def detach (registry : Registry) (now : Timestamp) (row : Row) (db : Database)
    (relation : Relation) : Database :=
  match relation.link, registry.find? relation.target with
  | .toMany ownerKey foreignKey, some target =>
    db.mapRows target.table fun other =>
      if (other.cell foreignKey).same (row.cell ownerKey) then
        refresh now target (other.set foreignKey .null)
      else other
  | .through between ownerKey ownerReference targetKey targetReference, some target =>
    db.filterRows between fun pair =>
      !(pair.cell ownerReference).same (row.cell ownerKey) ||
        (db.rowsWith target.table targetKey (pair.cell targetReference)).isEmpty
  | _, _ => db

/-- Removes a row, after clearing the references of its collections. -/
def removeRow (registry : Registry) (now : Timestamp) (entity : Entity) (row : Row)
    (db : Database) : Database :=
  (entity.relations.foldl (detach registry now row) db).filterRows entity.table fun other =>
    !sameKey entity row other

/-- Marks a row as deleted. -/
def markRow (now : Timestamp) (entity : Entity) (column : Column) (row : Row) (db : Database) :
    Database :=
  db.mapRows entity.table fun other =>
    if sameKey entity row other then
      (refresh now entity other).set column.physical (timeCell now)
    else other

/-- What a change answers, and the database after it. -/
structure Change where
  message : String
  database : Database

/-- Fails if a row of a collection cannot be read: all of them are read before their owner goes
away. -/
def checkCollections (db : Database) (registry : Registry) (entity : Entity) (row : Row) :
    Outcome Unit :=
  entity.relations.forM fun relation =>
    match relation.isCollection, registry.find? relation.target with
    | true, some target => (relatedRows db relation target row).forM (Row.check target)
    | _, _ => .ok ()

/-- Deletes a record for good. -/
def deleteRecord (db : Database) (registry : Registry) (now : Timestamp) (entity : String)
    (id : Value) : Outcome Change := do
  let (found, row) ← findRecord db registry entity id [] false
  checkCollections db registry found row
  return ⟨entity ++ " deleted successfully.", removeRow registry now found row db⟩

/-- Marks a record as deleted, if the entity supports that. -/
def softDeleteRecord (db : Database) (registry : Registry) (now : Timestamp) (entity : String)
    (id : Value) : Outcome Change := do
  let found ← registry.get entity
  match found.deletionColumn? with
  | none => refuse (.noSoftDelete entity)
  | some column =>
    let row ← findRow db registry found id [] false
    return ⟨entity ++ " soft-deleted successfully.", markRow now found column row db⟩

end RecordListing
