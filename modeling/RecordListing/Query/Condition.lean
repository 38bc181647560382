import RecordListing.Query.JoinPlan

/-!
# Conditions

What a listing asks of a row and of the rows joined to it. A condition names columns and carries the
values it compares them with, each under the name of a parameter; it is both written as SQL and
evaluated.
-/

set_option autoImplicit false

namespace RecordListing

/-- A named value, to be stored as a column of this type would store it. -/
structure Bind where
  name : String
  value : Value
  type : ColumnType

inductive Comparison
  | eq | ne | gt | gte | lt | lte
deriving DecidableEq, Repr

/-- A test of one column. -/
inductive Test
  | compare (column : ColumnRef) (comparison : Comparison) (bind : Bind)
  /-- Absent, or present. -/
  | isNull (column : ColumnRef) (absent : Bool)
  /-- The text of the column fits the pattern. `cast` says that the column is brought to text first,
  `anyCase` that the case of letters does not count. -/
  | like (column : ColumnRef) (cast anyCase : Bool) (bind : Bind)
  | between (column : ColumnRef) (low high : Bind)
  /-- The day of the column lies between two days. -/
  | dayBetween (column : ColumnRef) (low high : Bind)
  /-- One of the values, or none of them. -/
  | oneOf (column : ColumnRef) (among : Bool) (name : String) (values : List Value)
  /-- A column of truth values is true, or false. -/
  | isTruth (column : ColumnRef) (truth : Bool)

inductive Condition
  | never
  | test (test : Test)
  | both (left right : Condition)
  | either (left right : Condition)

namespace Condition

/-- All of the conditions. -/
def allOf (first : Condition) : List Condition → Condition
  | [] => first
  | next :: rest => .both first (allOf next rest)

/-- One of the conditions. -/
def anyOf (first : Condition) : List Condition → Condition
  | [] => first
  | next :: rest => .either first (anyOf next rest)

end Condition

end RecordListing
