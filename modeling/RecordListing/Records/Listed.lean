import RecordListing.Metrics
import RecordListing.Store.Execution
import RecordListing.Records.Show

/-!
# Listed records

After its two statements a listing loads the relations of the records of its page. A call is counted
once it has come to its end, whatever it came to. One for an entity that does not exist is refused
before anything is counted.
-/

set_option autoImplicit false

namespace RecordListing

/-- Loads the requested relations of the rows of a page. -/
def loadRelations (db : Database) (registry : Registry) (entity : String) (relations : Value)
    (rows : List Row) : Outcome Unit := do
  let root ← registry.get entity
  let paths ← relations.paths
  rows.forM fun row => (recordOf db registry root paths row).map fun _ => ()

/-- Runs a listing of an entity and loads the relations of its records. -/
def listRecords (defaults : Defaults) (registry : Registry) (db : Database) (entity : String)
    (request : Request) : ListingRun :=
  let run := runListing defaults registry db entity request
  { run with
    result := do
      let page ← run.result
      loadRelations db registry entity request.relations page.rows
      return page }

/-- Whether a call came to a result. -/
def ListingRun.succeeded (run : ListingRun) : Bool := run.result.toBool

/-- A call for a listing, and the metrics after it. -/
def callListing (defaults : Defaults) (registry : Registry) (db : Database) (entity : String)
    (request : Request) (metrics : Metrics) : ListingRun × Metrics :=
  match registry.get entity with
  | .error failure => (⟨[], .error failure⟩, metrics)
  | .ok _ =>
    let run := listRecords defaults registry db entity request
    (run, metrics.countListing entity run.succeeded)

end RecordListing
