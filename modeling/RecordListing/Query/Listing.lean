import RecordListing.Query.Search
import RecordListing.Query.Sorting
import RecordListing.Query.Page

/-!
# Listings

A listing is a request whose every part has been checked: which rows match, how they are sorted,
which window of them is shown, and which tables have to be joined for that.
-/

set_option autoImplicit false

namespace RecordListing

open Text

/-- The raw parameters of a listing. -/
structure Request where
  search : Value := .null
  page : Value := .null
  limit : Value := .null
  sortBy : Value := .null
  sortOrder : Value := .null
  /-- A list of dotted runs of relations that are to be shown with the records. -/
  relations : Value := .list []
  /-- A list of field paths. -/
  searchFields : Value := .list []
  /-- A filter map. -/
  filters : Value := .null
  /-- A list of filter maps. -/
  orFilters : Value := .null
  /-- Conditions that a caller adds of its own: properties of the root and the values that they must
  have. Any condition on the root could be added; such equalities are the only ones covered. -/
  extraConditions : List (String × Value) := []
  /-- Whether deleted rows are listed as well. -/
  withDeleted : Bool := false

/-- What holds for all listings. -/
structure Defaults where
  /-- How many records a page shows; without it every request has to say so. -/
  pageSize : Option Int := some 10
  /-- The field that records are sorted by; without it the key is. -/
  sortField : Option String := some "created_at"
  /-- The filter value that asks for an absent one, if there is such a value. -/
  sentinel : Option String := some "__NULL__"

structure Listing where
  plan : JoinPlan
  window : Window
  /-- The conditions that a row has to meet. -/
  conditions : List Condition
  sorting : Sorting

/-! ## Joins -/

/-- The dotted runs of relations in front of the columns of paths. -/
def relationPaths (root : Entity) (paths : List String) : List String :=
  (paths.map fun path => pathText (root.relationHops path)).filter fun path => !path.isEmpty

/-- The runs of relations that must be valid. -/
def requiredPaths (root : Entity) (request : Request) (fields : List String) :
    Outcome (List String) := do
  let relations ← request.relations.paths
  let sortField ← readSortField request.sortBy
  return relations ++ relationPaths root (fields ++ [sortField])

/-- The runs of relations that are joined where they are valid. -/
def searchRelations (root : Entity) (request : Request) : Outcome (List String) :=
  match searchTerm? request.search with
  | none => .ok []
  | some _ => request.searchFields.paths.map (relationPaths root)

/-! ## Conditions of the root -/

/-- The name of the parameter for the `number`-th value that a column must have. -/
def extraName (column : Column) (number : Nat) : String :=
  column.physical ++ "_" ++ Nat.repr number

/-- The type that a value is bound as when a column is compared with it: that of the column if the
value is of its kind, else that of the value. -/
def ColumnType.comparedAs (type : ColumnType) (value : Value) : ColumnType :=
  match value, type with
  | .int _, _ => .integer
  | .float _, .numeric .. | .decimal _, .numeric .. | .special _, .numeric .. => type
  | .float _, _ | .decimal _, _ | .special _, _ => .numeric 10 true
  | .text _, .uuid | .text _, .binary | .text _, .choice _ => type
  | .text _, _ => .text
  | .uuid _, _ => .uuid
  | .date _, _ => .date
  | .datetime _, .datetime _ => type
  | .datetime _, _ => .datetime false
  | _, _ => type

/-- That a column of the root has a value, the `number`-th one asked of it. -/
def extraCondition (column : Column) (number : Nat) (value : Value) : Condition :=
  match value with
  | .null => .test (.isNull ⟨[], column⟩ true)
  | .bool b => .test (.isTruth ⟨[], column⟩ b)
  | value =>
    .test (.compare ⟨[], column⟩ .eq
      ⟨extraName column number, value, column.type.comparedAs value⟩)

/-- Whether the value is compared with under a name. -/
def takesName (value : Value) : Bool :=
  match value with
  | .null | .bool _ => false
  | _ => true

/-- The conditions that properties of the root have values; `used` lists the physical names of the
columns that parameters are named after so far. -/
def compileExtra (root : Entity) (used : List String) :
    List (String × Value) → Outcome (List Condition)
  | [] => .ok []
  | (property, value) :: rest =>
    match root.columns.find? (·.property = property) with
    | none => crashWith ⟨.missingAttribute, property⟩
    | some column => do
      let number := used.count column.physical + 1
      let others ← compileExtra root
        (if takesName value then column.physical :: used else used) rest
      return extraCondition column number value :: others

/-- That a row is not deleted, if the entity can tell. -/
def notDeleted (root : Entity) : List Condition :=
  match root.deletionColumn? with
  | none => []
  | some column => [.test (.isNull ⟨[], column⟩ true)]

/-! ## Compilation -/

/-- All conditions of a request. -/
def compileConditions (plan : JoinPlan) (request : Request) (terms : List FilterTerm)
    (groups : List (List FilterTerm)) : Outcome (List Condition) := do
  let filters ← compileFilters plan "" terms
  let groups ← compileOrFilters plan groups
  let search ← compileSearch plan request.search request.searchFields
  let extra ← compileExtra plan.root [] request.extraConditions
  let hidden := if request.withDeleted then [] else notDeleted plan.root
  return filters ++ groups.toList ++ search.toList ++ extra ++ hidden

/-- The filter maps of the groups of a request, as they are given. -/
def Request.groups (request : Request) : Outcome (List Value) :=
  if request.orFilters.isNothing then .ok [] else request.orFilters.parts

/-- The terms of a request, and those of its groups. -/
def requestTerms (defaults : Defaults) (request : Request) :
    Outcome (List FilterTerm × List (List FilterTerm)) := do
  let filters ← filterEntries request.filters
  let groups ← (← request.groups).mapM filterEntries
  return (parseFilters defaults.sentinel filters, groups.map (parseFilters defaults.sentinel))

/-- The join plan of a request. -/
def planRequest (registry : Registry) (root : Entity) (request : Request)
    (terms : List FilterTerm) (groups : List (List FilterTerm)) : Outcome JoinPlan := do
  let required ← requiredPaths root request ((terms ++ groups.flatten).map (·.field))
  let optional ← searchRelations root request
  match JoinPlan.build registry root required optional with
  | .ok plan => return plan
  | .error reason => refuse reason

/-- Checks every part of a request. -/
def compileListing (defaults : Defaults) (registry : Registry) (entity : String)
    (request : Request) : Outcome Listing := do
  let root ← registry.get entity
  let window ← readWindow request.page request.limit defaults.pageSize
  let (terms, groups) ← requestTerms defaults request
  let plan ← planRequest registry root request terms groups
  let conditions ← compileConditions plan request terms groups
  let sorting ← compileSorting plan request.sortBy request.sortOrder defaults.sortField
  return ⟨plan, window, conditions, sorting⟩

end RecordListing
