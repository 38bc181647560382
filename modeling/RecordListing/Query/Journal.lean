import RecordListing.Query.Listing
import RecordListing.Log.Event

/-!
# What a listing tells about itself

The fields that were left out, the joins that were planned, and what came of it all. What is told
ends where the request is refused.
-/

set_option autoImplicit false

namespace RecordListing

open Log (Event textList)

def blockedEvent (field : String) : Event :=
  ⟨.debug, "fieldops.query.filters", "Skipping blocked filter field", [("field", .text field)]⟩

/-- The filter maps up to the first value that is none. -/
def leadingMaps : List Value → List (List (String × Value))
  | [] => []
  | value :: values =>
    match filterEntries value with
    | .ok entries => entries :: leadingMaps values
    | .error _ => []

/-- The blocked fields of a request. -/
def blockedEvents (defaults : Defaults) (request : Request) : List Event :=
  let maps := leadingMaps (request.filters :: request.groups.toOption.getD [])
  (maps.flatMap (blockedFields defaults.sentinel)).map blockedEvent

/-- The run of relations that cannot be joined, with the segment that names no relation. -/
def unjoinableEvent? (registry : Registry) (root : Entity) (path : String) : Option Event :=
  match JoinPlan.stepsOf registry root path with
  | .error (.unknownRelationSegment segment _) =>
    some ⟨.debug, "fieldops.query.joins", "Skipping unjoinable optional path",
      [("path", .text path), ("segment", .text segment)]⟩
  | _ => none

def planEvent (plan : JoinPlan) : Event :=
  ⟨.debug, "fieldops.query.joins", "Join plan built",
    [("entity", .text plan.root.name), ("joins", textList plan.aliases)]⟩

/-- The fields that the search passes over because they cannot be resolved, up to the first that
crashes it. -/
def searchEvents (plan : JoinPlan) (term : String) : List String → List Event
  | [] => []
  | path :: paths =>
    if isBlockedField path then searchEvents plan term paths
    else
      match plan.resolve path with
      | .error reason =>
        ⟨.debug, "fieldops.query.search", "Skipping unresolvable search field",
          [("field", .text path), ("reason", reason.message)]⟩ :: searchEvents plan term paths
      | .ok (_, column) =>
        match searchField term path 0 column with
        | .error _ => []
        | .ok _ => searchEvents plan term paths

def compiledEvent (entity : String) (listing : Listing) : Event :=
  ⟨.debug, "fieldops.query.executor", "Listing query compiled",
    [("entity", .text entity), ("joins", textList listing.plan.aliases),
      ("predicates", .int listing.conditions.length), ("sort_field", .text listing.sorting.field),
      ("sort_order", .text listing.sorting.order.name)]⟩

/-- What is told from the join plan on. -/
def plannedEvents (defaults : Defaults) (registry : Registry) (entity : String) (request : Request)
    (plan : JoinPlan) (terms : List FilterTerm) (groups : List (List FilterTerm)) : List Event :=
  let searched :=
    match searchTerm? request.search with
    | none => []
    | some term =>
      searchEvents plan term (searchPaths (request.searchFields.paths.toOption.getD []))
  let compiled :=
    match compileListing defaults registry entity request with
    | .ok listing => [compiledEvent entity listing]
    | .error _ => []
  match compileFilters plan "" terms, compileOrFilters plan groups with
  | .ok _, .ok _ => searched ++ compiled
  | _, _ => []

/-- What compiling a request tells. -/
def compilationEvents (defaults : Defaults) (registry : Registry) (entity : String)
    (request : Request) : List Event :=
  match registry.find? entity with
  | none => []
  | some root =>
    match readWindow request.page request.limit defaults.pageSize with
    | .error _ => []
    | .ok _ =>
      blockedEvents defaults request ++
        match requestTerms defaults request with
        | .error _ => []
        | .ok (terms, groups) => termEvents root terms groups
where
  /-- What is told once the filters are known. -/
  termEvents (root : Entity) (terms : List FilterTerm) (groups : List (List FilterTerm)) :
      List Event :=
    match planRequest registry root request terms groups with
    | .error _ => []
    | .ok plan =>
      ((searchRelations root request).toOption.getD []).filterMap
          (unjoinableEvent? registry root) ++
        planEvent plan :: plannedEvents defaults registry entity request plan terms groups

end RecordListing
