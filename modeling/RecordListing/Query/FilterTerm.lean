import RecordListing.Failure
import RecordListing.Json.Basic

/-!
# Filter terms

A filter map names fields by dotted keys or by nesting. A key may end in an operator; without one it
asks for equality. Each entry becomes one term.
-/

set_option autoImplicit false

namespace RecordListing

open Text

inductive Operator
  | eq | like | ilike | gt | gte | lt | lte | ne | isNull
deriving DecidableEq, Repr

namespace Operator

def name : Operator → String
  | .eq => "eq"
  | .like => "like"
  | .ilike => "ilike"
  | .gt => "gt"
  | .gte => "gte"
  | .lt => "lt"
  | .lte => "lte"
  | .ne => "ne"
  | .isNull => "isnull"

/-- The operators that a key may end in; equality is never written. -/
def written : List Operator := [.like, .ilike, .gt, .gte, .lt, .lte, .ne, .isNull]

def ofToken? (token : List Char) : Option Operator := written.find? (·.name.toList = token)

end Operator

structure FilterTerm where
  field : String
  operator : Operator
  value : Value

/-! ## Flattening -/

/-- The key of an entry inside the map under `base`. -/
def subKey (base key : String) : String := if base.isEmpty then key else base ++ "." ++ key

mutual

/-- The entries below a key that are no maps themselves, under dotted keys. -/
def leavesOf (key : String) : Value → List (String × Value)
  | .map entries => leavesIn key entries
  | value => [(key, value)]

def leavesIn (base : String) : List (String × Value) → List (String × Value)
  | [] => []
  | (key, value) :: entries => leavesOf (subKey base key) value ++ leavesIn base entries

end

/-- The filter map without nesting, with one entry a key. -/
def flattenFilters (filters : List (String × Value)) : List (String × Value) :=
  withoutRepeats (leavesIn "" filters)

/-- The entries of a filter map as it is given; what counts as nothing has none. -/
def filterEntries (filters : Value) : Outcome (List (String × Value)) :=
  if filters.isNothing then .ok [] else filters.entries

/-! ## Terms -/

/-- Final segments that are never taken for a column. -/
def blockedSegments : List String := [
  "toString", "constructor", "getSql", "valueOf", "prototype", "__proto__", "hasOwnProperty"]

/-- Whether a text begins and ends with two underscores. -/
def isDundered (cs : List Char) : Bool :=
  ['_', '_'].isPrefixOf cs && ['_', '_'].isPrefixOf cs.reverse

/-- Whether the last segment of a path is never taken for a column. -/
def isBlockedField (path : String) : Bool :=
  let last := ((cutLast '.' path.toList).map (·.2)).getD path.toList
  blockedSegments.contains (String.ofList last) || isDundered last

/-- Takes the operator off a key. -/
def splitKey (key : String) : String × Operator :=
  match cutLast '.' key.toList with
  | some (head, tail) =>
    match Operator.ofToken? tail with
    | some operator => if head.isEmpty then (key, .eq) else (String.ofList head, operator)
    | none => (key, .eq)
  | none => (key, .eq)

/-- Whether the value is the text that stands for an absent one. -/
def isSentinel (sentinel : Option String) : Value → Bool
  | .text s => sentinel == some s
  | .member m => sentinel == some m.value
  | _ => false

/-- The term of an entry. The sentinel asks for an absent value, or under `ne` for a present one,
whatever the operator. -/
def FilterTerm.ofEntry (sentinel : Option String) (key : String) (value : Value) : FilterTerm :=
  let parts := splitKey key
  if isSentinel sentinel value then ⟨parts.1, .isNull, .bool (parts.2 ≠ .ne)⟩
  else ⟨parts.1, parts.2, value⟩

/-- The terms of a filter map; those of blocked fields are left out. -/
def parseFilters (sentinel : Option String) (filters : List (String × Value)) :
    List FilterTerm :=
  ((flattenFilters filters).map fun entry => FilterTerm.ofEntry sentinel entry.1 entry.2).filter
    fun term => !isBlockedField term.field

/-- The blocked fields of a filter map, in order. -/
def blockedFields (sentinel : Option String) (filters : List (String × Value)) :
    List String :=
  let fields := (flattenFilters filters).map fun entry =>
    (FilterTerm.ofEntry sentinel entry.1 entry.2).field
  fields.filter isBlockedField

end RecordListing
