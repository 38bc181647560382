import RecordListing.Failure

/-!
# Field paths

A path is written with dots: relations to follow one after the other, then a column. A path whose
first segment is no relation names a column of the root, dots and all.
-/

set_option autoImplicit false

namespace RecordListing

open Text

/-- The segments of a dotted path. -/
def pathSegments (path : String) : List String := pieces '.' path

/-- The dotted path of the segments. -/
def pathText (segments : List String) : String := joined "." segments

/-- A path that has been followed to its column. -/
structure Field where
  path : String
  /-- The relations that lead from the root to the entity that has the column. -/
  hops : List String
  column : Column
  entity : Entity

namespace Registry

/-- The relation of this name and the entity it leads to. -/
def hop? (registry : Registry) (entity : Entity) (segment : String) : Option (Relation × Entity) :=
  (entity.relation? segment).bind fun relation =>
    (registry.find? relation.target).map fun target => (relation, target)

/-- The entity registered under this name. -/
def get (registry : Registry) (name : String) : Outcome Entity :=
  match registry.find? name with
  | some entity => .ok entity
  | none => refuse (.unknownEntity name registry.names)

/-- The entity registered under a name that may be any value. -/
def named (registry : Registry) (name : Value) : Outcome Entity :=
  match name with
  | .text name => registry.get name
  | .list _ | .map _ => crashWith ⟨.badType, "unhashable type: '" ++ name.kindName ++ "'"⟩
  | name =>
    let names := registry.names
    refuse (.general .entity (Refusal.unknownEntity name.toText names).message
      (.map [("entity", name), ("available", .list (names.map .text))]))

/-- The entity that the relations lead to; `path` is what is being followed. -/
def walk (registry : Registry) (path : String) (entity : Entity) :
    List String → Except Refusal Entity
  | [] => .ok entity
  | segment :: rest =>
    match registry.hop? entity segment with
    | none => .error (.unknownRelationSegment segment path)
    | some (_, target) => registry.walk path target rest

end Registry

namespace Entity

/-- The relations in front of the column of a path; none if the path names a column of the root. -/
def relationHops (root : Entity) (path : String) : List String :=
  match pathSegments path with
  | first :: second :: rest =>
    if (root.relation? first).isSome then (first :: second :: rest).dropLast else []
  | _ => []

/-- Follows a path to its column. -/
def resolve (root : Entity) (registry : Registry) (path : String) : Except Refusal Field :=
  match root.relationHops path with
  | [] =>
    match root.column? path with
    | none => .error (.unknownField path root.name)
    | some column => .ok ⟨path, [], column, root⟩
  | hops =>
    match registry.walk path root hops with
    | .error reason => .error reason
    | .ok target =>
      match target.column? ((pathSegments path).getLast?.getD "") with
      | none => .error (.unknownField path target.name)
      | some column => .ok ⟨path, hops, column, target⟩

end Entity

end RecordListing
