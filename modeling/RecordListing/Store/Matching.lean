import RecordListing.Store.Database
import RecordListing.Store.Day
import RecordListing.Query.Listing

/-!
# Matching rows

A row of the root is joined to its related rows in every possible way; where there is none, to
nothing. It matches if one of the ways meets all conditions. The page of a listing is a window on
its matching rows in order.
-/

set_option autoImplicit false

namespace RecordListing

/-- A row of the root with a row, or nothing, for each run of relations. -/
structure JoinedRow where
  root : Row
  related : List (List String × Option Row)

namespace JoinedRow

/-- The row that the relations lead to. -/
def row? (joined : JoinedRow) (hops : List String) : Option Row :=
  if hops.isEmpty then some joined.root else (joined.related.lookup hops).join

/-- The cell of a column; a missing row has only empty ones. -/
def cell (joined : JoinedRow) (column : ColumnRef) : Cell :=
  ((joined.row? column.hops).map fun row => row.cell column.column.physical).getD .null

end JoinedRow

/-! ## Conditions -/

/-- What is bound for a value of a type. -/
def boundCell (type : ColumnType) (value : Value) : Cell := (type.rawCell value).toOption.getD .null

/-- What is bound for a parameter. -/
def Bind.cell (bind : Bind) : Cell := boundCell bind.type bind.value

/-- What a column compares with a cell that is bound. -/
def ColumnRef.take (column : ColumnRef) (cell : Cell) : Cell := column.column.type.take cell

/-- Which order of its operands a comparison wants. -/
def Comparison.wants : Comparison → Ordering → Bool
  | .eq, o => o == .eq
  | .ne, o => o != .eq
  | .gt, o => o == .gt
  | .gte, o => o != .lt
  | .lt, o => o == .lt
  | .lte, o => o != .gt

/-- Whether the text of a cell fits the pattern in another, each up to its end. -/
def fitsCell (pattern cell : Cell) : Truth :=
  match pattern.toText?, cell.toText? with
  | some p, some s => .ofBool (Text.fits (Cell.untilEnd p) (Cell.untilEnd s))
  | _, _ => .unknown

/-- Whether a cell lies between two others. -/
def betweenCells (low high cell : Cell) : Truth :=
  (Cell.test Comparison.gte.wants cell low).and (Cell.test Comparison.lte.wants cell high)

def Test.truth (joined : JoinedRow) : Test → Truth
  | .compare column comparison bind =>
    Cell.test comparison.wants (joined.cell column) (column.take bind.cell)
  | .isNull column absent => .ofBool ((joined.cell column).isNull == absent)
  | .like column _ _ bind => fitsCell bind.cell (joined.cell column)
  | .between column low high =>
    betweenCells (column.take low.cell) (column.take high.cell) (joined.cell column)
  | .dayBetween column low high => betweenCells low.cell high.cell (joined.cell column).day
  | .oneOf column among _ values =>
    let cells := values.map fun value => column.take (boundCell column.column.type value)
    let truth := (joined.cell column).among cells
    if among then truth else truth.not
  | .isTruth column truth =>
    Cell.test (· == .eq) (joined.cell column) (column.take (.int (if truth then 1 else 0)))

def Condition.truth (joined : JoinedRow) : Condition → Truth
  | .never => .no
  | .test t => t.truth joined
  | .both left right => (left.truth joined).and (right.truth joined)
  | .either left right => (left.truth joined).or (right.truth joined)

/-- Whether all conditions are true. -/
def meetsAll (conditions : List Condition) (joined : JoinedRow) : Bool :=
  conditions.all fun condition => condition.truth joined == .yes

/-! ## Joins -/

/-- The ways to go on from a joined row by one step. -/
def JoinedRow.extend (db : Database) (step : JoinStep) (joined : JoinedRow) : List JoinedRow :=
  let found :=
    match joined.row? step.parent with
    | none => []
    | some parent => db.linked step.relation.link step.target.table parent
  match found with
  | [] => [⟨joined.root, joined.related ++ [(step.hops, none)]⟩]
  | rows => rows.map fun row => ⟨joined.root, joined.related ++ [(step.hops, some row)]⟩

/-- All ways to join a row of the root. -/
def joinedRows (db : Database) (steps : List JoinStep) (root : Row) : List JoinedRow :=
  steps.foldl (fun ways step => ways.flatMap (JoinedRow.extend db step)) [⟨root, []⟩]

/-! ## Sorting -/

/-- Order of cells, upwards or downwards. -/
def SortOrder.compare (order : SortOrder) (a b : Cell) : Ordering :=
  if order.ascending then Cell.compare a b else Cell.compare b a

/-- The least cell of the sort column among ways to join, or the greatest when sorting down. -/
def Sorting.extreme (sorting : Sorting) (ways : List JoinedRow) : Cell :=
  let cells := ways.map fun joined => joined.cell sorting.column
  if sorting.order.ascending then Cell.least cells else Cell.greatest cells

namespace Listing

/-- The ways to join a row that meet all conditions. -/
def ways (listing : Listing) (db : Database) (row : Row) : List JoinedRow :=
  (joinedRows db listing.plan.steps row).filter (meetsAll listing.conditions)

/-- The rows that match. -/
def matching (listing : Listing) (db : Database) : List Row :=
  (db.rows listing.plan.root.table).filter fun row => !(listing.ways db row).isEmpty

/-- What a row is sorted by. -/
def sortKey (listing : Listing) (db : Database) (row : Row) : Cell :=
  listing.sorting.extreme (listing.ways db row)

/-- Whether a row with its sort key may stand before another; ties go by primary key. -/
def before (listing : Listing) (a b : Cell × Row) : Bool :=
  let root := listing.plan.root
  let keys := compareKeys (root.keyOf a.2) (root.keyOf b.2)
  (listing.sorting.order.compare a.1 b.1).then keys != .gt

/-- The matching rows in order. -/
def sorted (listing : Listing) (db : Database) : List Row :=
  (((listing.matching db).map fun row => (listing.sortKey db row, row)).mergeSort
    listing.before).map (·.2)

/-- The rows of the page. -/
def pageRows (listing : Listing) (db : Database) : List Row :=
  listing.window.cut (listing.sorted db)

end Listing

end RecordListing
