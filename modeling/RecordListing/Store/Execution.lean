import RecordListing.Store.Statement
import RecordListing.Query.Sql

/-!
# Running listings

A listing runs two statements: the first counts the matching rows, the second reads one page of
them. Values that the database cannot take make a statement fail before it reads anything.
-/

set_option autoImplicit false

namespace RecordListing

/-- One page of records, and how many there are on all pages. -/
structure Page where
  total : Nat
  current : Nat
  perPage : Int
  rows : List Row

inductive Statement
  | count | data
deriving DecidableEq, Repr

/-- What a call did: the statements it ran, in order, and what it came to. -/
structure ListingRun where
  statements : List Statement
  result : Outcome Page

/-! ## Values that can be bound -/

/-- The values of a test with the types they are stored as. -/
def Test.binds : Test → List (ColumnType × Value)
  | .compare _ _ bind | .like _ _ _ bind => [(bind.type, bind.value)]
  | .between _ low high | .dayBetween _ low high => [(low.type, low.value), (high.type, high.value)]
  | .oneOf column _ _ values => values.map fun value => (column.column.type, value)
  | .isNull _ _ | .isTruth _ _ => []

def Condition.binds : Condition → List (ColumnType × Value)
  | .never => []
  | .test t => t.binds
  | .both left right | .either left right => left.binds ++ right.binds

/-- The most tables that one statement joins. -/
def tableLimit : Nat := 64

/-- Fails if there are more tables than one statement joins. -/
def JoinPlan.checkTables (plan : JoinPlan) : Outcome Unit :=
  if plan.steps.length < tableLimit then .ok ()
  else crashWith ⟨.other "OperationalError", "at most 64 tables in a join"⟩

/-- The values that the conditions bind. A hopeless condition binds none. -/
def Listing.binds (listing : Listing) : List (ColumnType × Value) :=
  if Sql.isHopeless listing.conditions then []
  else listing.conditions.flatMap Condition.binds

/-- Fails if the values of the conditions cannot be bound: first for those that their types cannot
store, then, with the statement at hand, for those that the database cannot take. -/
def Listing.checkConditions (listing : Listing) : Outcome Unit := do
  listing.binds.forM fun bind => bind.1.checkFit bind.2
  listing.plan.checkTables
  listing.binds.forM fun bind => bind.1.check bind.2

/-- Fails if the window lies beyond what the database can count. -/
def Listing.checkWindow (listing : Listing) : Outcome Unit := do
  ColumnType.integer.check (.int listing.window.limit)
  ColumnType.integer.check (.int listing.window.offset)

/-! ## Running -/

/-- Runs both statements of a listing. -/
def Listing.run (listing : Listing) (db : Database) : ListingRun :=
  match listing.checkConditions with
  | .error failure => ⟨[.count], .error failure⟩
  | .ok _ =>
    let total := listing.countKeys db
    match listing.checkWindow with
    | .error failure => ⟨[.count, .data], .error failure⟩
    | .ok _ =>
      let rows := listing.readRows db
      ⟨[.count, .data], (rows.forM (Row.check listing.plan.root)).map fun _ =>
        ⟨total, listing.window.page, listing.window.limit, rows⟩⟩

/-- Compiles and runs a listing of an entity. -/
def runListing (defaults : Defaults) (registry : Registry) (db : Database) (entity : String)
    (request : Request) : ListingRun :=
  match compileListing defaults registry entity request with
  | .error failure => ⟨[], .error failure⟩
  | .ok listing => listing.run db

end RecordListing
