import RecordListing.Query.Path

/-!
# Join plans

Every run of relations that a listing mentions is joined once, after the runs it extends. What a run
leads to is known under an alias made of the root's name and the relations, so that two runs to the
same table stay apart.
-/

set_option autoImplicit false

namespace RecordListing

open Text

/-- One joined table. -/
structure JoinStep where
  /-- The relations that lead to it from the root. -/
  hops : List String
  relation : Relation
  target : Entity

/-- The relations that lead to the table it is joined to. -/
def JoinStep.parent (step : JoinStep) : List String := step.hops.dropLast

structure JoinPlan where
  registry : Registry
  root : Entity
  /-- In the order of joining. -/
  steps : List JoinStep

/-- A column of a joined table, or of the root if there are no relations. -/
structure ColumnRef where
  hops : List String
  column : Column

/-- The alias of what the relations lead to. -/
def aliasOf (root : Entity) (hops : List String) : String := joined "__" (root.name :: hops)

namespace JoinPlan

def rootAlias (plan : JoinPlan) : String := plan.root.name

/-- The steps along a run of relations, `before` being the relations already followed. -/
def stepsAlong (registry : Registry) (path : String) (before : List String) (entity : Entity) :
    List String → Except Refusal (List JoinStep)
  | [] => .ok []
  | segment :: rest =>
    match registry.hop? entity segment with
    | none => .error (.unknownRelationSegment segment path)
    | some (relation, target) =>
      let hops := before ++ [segment]
      (stepsAlong registry path hops target rest).map (⟨hops, relation, target⟩ :: ·)

/-- Whether the relations are those of one of the steps. -/
def reaches (steps : List JoinStep) (hops : List String) : Bool := steps.any (·.hops = hops)

/-- Adds the steps that are not there yet. -/
def extend (steps new : List JoinStep) : List JoinStep :=
  new.foldl (fun steps step => if reaches steps step.hops then steps else steps ++ [step]) steps

/-- All steps along a dotted run of relations. -/
def stepsOf (registry : Registry) (root : Entity) (path : String) :
    Except Refusal (List JoinStep) :=
  stepsAlong registry path [] root (pathSegments path)

/-- Adds the steps of paths that must be valid; the first bad one is refused. -/
def addRequired (registry : Registry) (root : Entity) (steps : List JoinStep) :
    List String → Except Refusal (List JoinStep)
  | [] => .ok steps
  | path :: paths =>
    if path.isEmpty then addRequired registry root steps paths
    else
      match stepsOf registry root path with
      | .error reason => .error reason
      | .ok new => addRequired registry root (extend steps new) paths

/-- Adds the steps of the paths that are valid. -/
def addOptional (registry : Registry) (root : Entity) (steps : List JoinStep) :
    List String → List JoinStep
  | [] => steps
  | path :: paths =>
    if path.isEmpty then addOptional registry root steps paths
    else
      match stepsOf registry root path with
      | .error _ => addOptional registry root steps paths
      | .ok new => addOptional registry root (extend steps new) paths

/-- The plan for paths that must be valid and paths that need not be. -/
def build (registry : Registry) (root : Entity) (required optional : List String) :
    Except Refusal JoinPlan :=
  (addRequired registry root [] required).map fun steps =>
    ⟨registry, root, addOptional registry root steps optional⟩

/-- Follows a path to a column that the plan has joined. -/
def resolve (plan : JoinPlan) (path : String) : Except Refusal (Field × ColumnRef) :=
  match plan.root.resolve plan.registry path with
  | .error reason => .error reason
  | .ok field =>
    if field.hops.isEmpty || reaches plan.steps field.hops then
      .ok (field, ⟨field.hops, field.column⟩)
    else .error (.missingJoin (pathText field.hops) path)

/-- The alias of each step, in order. -/
def aliases (plan : JoinPlan) : List String :=
  plan.steps.map fun step => aliasOf plan.root step.hops

end JoinPlan

end RecordListing
