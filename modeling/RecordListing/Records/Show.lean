import RecordListing.Store.Database
import RecordListing.Records.Tree

/-!
# Records

A record shows all columns of a row and, for each requested relation, the related record or the list
of related records. Deleted related rows are shown as well. Related rows are loaded with the records
before anything is shown; showing never goes back to the database for more. They are not asked for
in any order, so that the order of a list is the database's choice; here it is that of the keys.
-/

set_option autoImplicit false

namespace RecordListing

/-- Whether the related rows at the end of a run of relations are loaded: those along every
requested run are. -/
def isLoaded (requested : List (List String)) (run : List String) : Bool :=
  requested.any fun path => run.isPrefixOf path

/-- The rows that a relation leads to. Nothing asks for an order of them; that of their keys stands
for the one that the database chooses. -/
def relatedRows (db : Database) (relation : Relation) (target : Entity) (row : Row) : List Row :=
  target.sortRows (db.linked relation.link target.table row)

mutual

/-- The record of a row that `run` leads to, with the relations of a tree. -/
def showRecord (db : Database) (registry : Registry) (requested : List (List String)) :
    RelationTree → (run : List String) → Entity → Row → Outcome (List (String × Value))
  | .node children, run, entity, row => do
    row.check entity
    let related ← showRelations db registry requested children run entity row
    return row.values entity ++ related

/-- The requested relations of a row. -/
def showRelations (db : Database) (registry : Registry) (requested : List (List String)) :
    List (String × RelationTree) → (run : List String) → Entity → Row →
      Outcome (List (String × Value))
  | [], _, _, _ => .ok []
  | (name, tree) :: rest, run, entity, row =>
    match registry.hop? entity name, isLoaded requested (run ++ [name]) with
    | none, _ => crashWith ⟨.missingAttribute, name⟩
    | some _, false => crashWith ⟨.badState, "not loaded: " ++ name⟩
    | some (relation, target), true => do
      let records ← (relatedRows db relation target row).mapM fun related =>
        (showRecord db registry requested tree (run ++ [name]) target related).map Value.map
      let others ← showRelations db registry requested rest run entity row
      return (name, if relation.isCollection then .list records else records.head?.getD .null) ::
        others

end

/-- The record of a row with dotted runs of relations; empty runs show nothing. -/
def recordOf (db : Database) (registry : Registry) (entity : Entity) (relations : List String)
    (row : Row) : Outcome (List (String × Value)) :=
  let paths := relations.filter fun path => !path.isEmpty
  showRecord db registry (paths.map pathSegments) (.ofPaths paths) [] entity row

end RecordListing
