import RecordListing.Schema.Column
import RecordListing.Text.Case

/-!
# Entities

An entity is a table with the names that callers use for its columns and for its relations to other
entities. A registry knows every entity by name.
-/

set_option autoImplicit false

namespace RecordListing

/-- How the rows of a relation are found; columns are given by their physical names. -/
inductive Link
  /-- `foreignKey` of the owner refers to `targetKey` of the target. -/
  | toOne (foreignKey targetKey : String)
  /-- `foreignKey` of the target refers to `ownerKey` of the owner. -/
  | toMany (ownerKey foreignKey : String)
  /-- Rows of a table in between refer to `ownerKey` and to `targetKey`. -/
  | through (table ownerKey ownerReference targetKey targetReference : String)
deriving DecidableEq, Repr

structure Relation where
  name : String
  target : String
  link : Link
  named : name ≠ "" := by simp
deriving DecidableEq, Repr

/-- Whether a row may be related to several rows. -/
def Relation.isCollection (relation : Relation) : Bool :=
  match relation.link with
  | .toOne _ _ => false
  | _ => true

structure Entity where
  name : String
  table : String
  columns : List Column
  relations : List Relation
  /-- The properties of the primary key, of which there is at least one. -/
  key : List String

/-- The other spelling of the two names that every entity accepts for its time of creation. -/
def otherSpelling? (name : String) : Option String :=
  if name = "created_at" then some "createdAt"
  else if name = "createdAt" then some "created_at"
  else none

namespace Entity

/-- The column of this property, or else of this physical name. -/
def namedColumn? (entity : Entity) (name : String) : Option Column :=
  (entity.columns.find? (·.property = name)).orElse fun _ =>
    entity.columns.find? (·.physical = name)

/-- The column that a caller means; the time of creation may be spelled either way. -/
def column? (entity : Entity) (name : String) : Option Column :=
  (entity.namedColumn? name).orElse fun _ => (otherSpelling? name).bind entity.namedColumn?

def relation? (entity : Entity) (name : String) : Option Relation :=
  entity.relations.find? (·.name = name)

def properties (entity : Entity) : List String := entity.columns.map (·.property)

/-- The columns of the primary key. -/
def keyColumns (entity : Entity) : List Column := entity.key.filterMap entity.column?

/-- The column that hides a row once it is set. -/
def deletionName : String := "deleted_at"

def deletionColumn? (entity : Entity) : Option Column := entity.column? deletionName

/-- The columns that every change of a row sets to the current time. -/
def refreshedColumns (entity : Entity) : List Column := entity.columns.filter (·.refreshed)

end Entity

structure Registry where
  entities : List Entity

namespace Registry

def find? (registry : Registry) (name : String) : Option Entity :=
  registry.entities.find? (·.name = name)

/-- The names of the entities, sorted. -/
def names (registry : Registry) : List String :=
  (registry.entities.map (·.name)).mergeSort (· ≤ ·)

def contains (registry : Registry) (name : String) : Bool := (registry.find? name).isSome

end Registry

/-! ## Entity names -/

/-- Puts an underscore before every capital but the first character. -/
def snakeChars (first : Bool) : List Char → List Char
  | [] => []
  | c :: cs =>
    (if !first && 'A' ≤ c && c ≤ 'Z' then ['_', c] else [c]) ++ snakeChars false cs

/-- The name of an entity, from the name of what it describes. -/
def entityName (name : String) : String :=
  Text.lower (String.ofList (snakeChars true name.toList))

end RecordListing
