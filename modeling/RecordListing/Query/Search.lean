import RecordListing.Query.Filter

/-!
# Search

A term is looked for in each of the listed fields: choices and numbers must equal it, any other
column must hold it in its text. Fields that cannot be resolved or cannot take the term are passed
over; when none is left, nothing is found.
-/

set_option autoImplicit false

namespace RecordListing

open Text

def searchSpace : String := "search_"

/-- The term without blanks around it, unless nothing is left. -/
def searchTerm? (search : Value) : Option String :=
  if search.isNull then none
  else
    let term := trim search.toText
    if term.isEmpty then none else some term

/-- The fields that name something. -/
def searchPaths (fields : List String) : List String := fields.filter fun path => !path.isEmpty

/-- The value that a column of choices or numbers is compared with; none if it cannot take the
term. -/
def searchValue (type : ColumnType) (term : String) : Outcome (Option Value) :=
  match type with
  | .choice choices =>
    if choices.texts.contains term then
      match choices.accept? (.text term), choices with
      | some value, _ => .ok (some value)
      | none, .members (m :: _) _ => crashWith (.notAMember term m.enumeration)
      | none, _ => .ok none
    else .ok none
  | .integer =>
    match readNumber term true with
    | .ok d => .ok (some (.int d.truncate))
    | .error .malformed => .ok none
    | .error .beyondRange => crashWith .decimalRange
  | .numeric _ _ =>
    match readNumber term false with
    | .ok d => .ok (some (.decimal d))
    | .error .malformed => .ok none
    | .error .beyondRange => crashWith .decimalRange
  | _ => .ok none

/-- The condition of one field, if it can take the term. -/
def searchField (term path : String) (number : Nat) (column : ColumnRef) :
    Outcome (Option Condition) :=
  let name := bindName searchSpace number path ""
  let type := column.column.type
  if type.kind = .choice ∨ type.kind.isNumber then do
    let value ← searchValue type term
    return value.map fun value => .test (.compare column .eq ⟨name, value, type⟩)
  else .ok (some (.test (.like column true true ⟨name, .text (holding term), .text⟩)))

/-- The conditions of the fields that can take the term. -/
def searchFields (plan : JoinPlan) (term : String) (number : Nat) :
    List String → Outcome (List Condition)
  | [] => .ok []
  | path :: paths =>
    if isBlockedField path then searchFields plan term number paths
    else
      match plan.resolve path with
      | .error _ => searchFields plan term number paths
      | .ok (_, column) => do
        match ← searchField term path number column with
        | none => searchFields plan term number paths
        | some condition =>
          let others ← searchFields plan term (number + 1) paths
          return condition :: others

/-- The condition that one of the paths leads to a field that holds the term. -/
def searchCondition (plan : JoinPlan) (term : String) (paths : List String) :
    Outcome (Option Condition) := do
  if paths.isEmpty then return none
  else
    match ← searchFields plan term 0 paths with
    | [] => return some .never
    | first :: rest => return some (.anyOf first rest)

/-- The condition that one of the listed fields holds the term; none without a term or without
fields. -/
def compileSearch (plan : JoinPlan) (search fields : Value) : Outcome (Option Condition) :=
  if search.isNull then .ok none
  else
    match fields.parts, searchTerm? search with
    | .error failure, _ => .error failure
    | .ok _, none => .ok none
    | .ok _, some term => do
      let paths ← fields.paths
      searchCondition plan term (searchPaths paths)

end RecordListing
