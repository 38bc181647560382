import RecordListing.Records.Access
import RecordListing.Query.Journal

/-!
# What access to records tells

The end of a listing, records that were not found, and records that were deleted.
-/

set_option autoImplicit false

namespace RecordListing

open Log (Event)

/-- What a listing tells. -/
def listingEvents (defaults : Defaults) (registry : Registry) (entity : String) (request : Request)
    (run : ListingRun) : List Event :=
  compilationEvents defaults registry entity request ++
    match run.result with
    | .error _ => []
    | .ok page =>
      [⟨.info, "fieldops.query.executor", "Listing executed",
        [("entity", .text entity), ("total_records", .int page.total), ("page", .int page.current),
          ("limit", .int page.perPage), ("returned", .int page.rows.length)]⟩]

def recordLogger : String := "fieldops.repos.records_repo"

/-- What looking for a record tells. -/
def findEvents (registry : Registry) (entity : String) (id : Value) (relations : List String)
    (failure : Option Failure) : List Event :=
  match registry.find? entity with
  | none => []
  | some root =>
    match JoinPlan.build registry root (relations.filter fun path => !path.isEmpty) [] with
    | .error _ => []
    | .ok plan =>
      planEvent plan ::
        match failure with
        | some (.refusal (.recordNotFound _ _)) =>
          [⟨.warning, recordLogger, entity ++ " not found: " ++ id.toText, []⟩]
        | _ => []

/-- The failure of an outcome. -/
def failureOf? {α : Type} : Outcome α → Option Failure
  | .ok _ => none
  | .error failure => some failure

/-- What deleting a record tells; `verb` says how it is deleted. -/
def changeEvents (registry : Registry) (entity : String) (id : Value) (verb : String)
    (outcome : Outcome Change) : List Event :=
  match outcome with
  | .error (.refusal (.noSoftDelete _)) => []
  | .error failure => findEvents registry entity id [] (some failure)
  | .ok _ =>
    findEvents registry entity id [] none ++
      [⟨.info, recordLogger, verb ++ " " ++ entity ++ ": " ++ id.toText, []⟩]

end RecordListing
