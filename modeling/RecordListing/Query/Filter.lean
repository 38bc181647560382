import RecordListing.Query.Condition
import RecordListing.Query.FilterTerm
import RecordListing.Query.Coercion
import RecordListing.Text.Like

/-!
# Filters

Each term asks for one condition, except those that ask for nothing. A lower and an upper bound on
one field are one range. Days given for a point in time stand for all of the day.
-/

set_option autoImplicit false

namespace RecordListing

open Text

/-! ## Parameter names -/

/-- Letters and digits of ASCII are kept in a name; anything else is an underscore. -/
def nameChar (c : Char) : Char :=
  if ('A' ≤ c ∧ c ≤ 'Z') ∨ ('a' ≤ c ∧ c ≤ 'z') ∨ isPlainDigit c then c else '_'

/-- The name of the `number`-th parameter of a namespace. -/
def bindName (space : String) (number : Nat) (path suffix : String) : String :=
  space ++ "p" ++ Nat.repr number ++ "_" ++ String.ofList (path.toList.map nameChar) ++ suffix

/-- The names of parameters that are asked for one after the other, from the `number`-th on, each by
a path and a suffix if any. -/
def bindNames (space : String) (number : Nat) : List (List Value) → Outcome (List String)
  | [] => .ok []
  | asked :: others => do
    let name ←
      match asked with
      | [path] => (path.asText "replace").map fun path => bindName space number path ""
      | [path, suffix] =>
        (path.asText "replace").map fun path => bindName space number path suffix.toText
      | _ => crashWith ⟨.badType, "a path and at most a suffix"⟩
    let names ← bindNames space (number + 1) others
    return name :: names

/-! ## Bounds -/

/-- The day that a text names, as a failure of its own if there is none. -/
def readDay (s : String) : Outcome Date :=
  match Date.read (trimmed s.toList) with
  | .ok date => .ok date
  | .error fault => crashWith (.ofDate fault)

/-- The first instants of a day and of the next one. -/
def dayBounds (zoned : Bool) (s : String) : Outcome (Timestamp × Timestamp) :=
  match readDay s with
  | .error failure => .error failure
  | .ok date =>
    match date.next? with
    | none => crashWith (.ofDate .beyondCalendar)
    | some next =>
      let instant (day : Date) : Timestamp :=
        if zoned then (Timestamp.startOf day).orUniversal else .startOf day
      .ok (instant date, instant next)

/-- A range between two values. Two whole days are compared with the day of the column. -/
def compileRange (plan : JoinPlan) (space : String) (number : Nat) (path : String)
    (low high : Value) : Outcome (Condition × Nat) :=
  match plan.resolve path with
  | .error reason => refuse reason
  | .ok (field, column) =>
    let lowName := bindName space number path "_from"
    let highName := bindName space (number + 1) path "_to"
    match low, high with
    | .text lowText, .text highText =>
      if isDateOnly lowText && isDateOnly highText then do
        let first ← readDay lowText
        let last ← readDay highText
        let low : Bind := ⟨lowName, .date first, .date⟩
        let high : Bind := ⟨highName, .date last, .date⟩
        return (.test (.dayBetween column low high), number + 2)
      else bounded field column lowName highName
    | _, _ => bounded field column lowName highName
where
  /-- The range between two values of the column's type. -/
  bounded (field : Field) (column : ColumnRef) (lowName highName : String) :
      Outcome (Condition × Nat) :=
    match field.column.coerce path low, field.column.coerce path high with
    | .ok first, .ok last =>
      .ok (.test (.between column ⟨lowName, first, field.column.type⟩
        ⟨highName, last, field.column.type⟩), number + 2)
    | .error reason, _ | _, .error reason => refuse reason

/-! ## Terms -/

/-- Equality with a value, or with one of the values of a list. -/
def compileEquality (space : String) (number : Nat) (term : FilterTerm) (field : Field)
    (column : ColumnRef) : Outcome (Option Condition × Nat) :=
  let negated := decide (term.operator = .ne)
  if !negated && term.value.isEmptyText then .ok (none, number)
  else
    match term.value, field.column.type with
    | .list [], _ => .ok (none, number)
    | .list items, _ =>
      match items.mapM (field.column.coerce term.field) with
      | .error reason => refuse reason
      | .ok values =>
        .ok (some (.test (.oneOf column (!negated) (bindName space number term.field "") values)),
          number + 1)
    | .text s, .datetime zoned =>
      if isDateOnly s then wholeDay negated zoned s else single negated (.text s)
    | value, _ => single negated value
where
  /-- Whether the column is, or is not, the value. -/
  single (negated : Bool) (value : Value) : Outcome (Option Condition × Nat) :=
    match field.column.coerce term.field value with
    | .error reason => refuse reason
    | .ok coerced =>
      .ok (some (.test (.compare column (if negated then .ne else .eq)
        ⟨bindName space number term.field "", coerced, field.column.type⟩)), number + 1)
  /-- Whether the column lies, or does not lie, within the day. -/
  wholeDay (negated zoned : Bool) (s : String) : Outcome (Option Condition × Nat) := do
    let (start, stop) ← dayBounds zoned s
    let type := field.column.type
    let low : Bind := ⟨bindName space number term.field "_start", .datetime start, type⟩
    let high : Bind := ⟨bindName space (number + 1) term.field "_end", .datetime stop, type⟩
    if negated then
      return (some (.either (.test (.compare column .lt low)) (.test (.compare column .gte high))),
        number + 2)
    else
      return (some (.both (.test (.compare column .gte low)) (.test (.compare column .lt high))),
        number + 2)

/-- The comparison of an operator that orders. -/
def Operator.comparison : Operator → Comparison
  | .gt => .gt
  | .gte => .gte
  | .lt => .lt
  | .lte => .lte
  | .ne => .ne
  | _ => .eq

/-- The condition of a term, if it asks for one, and the number of the next parameter. -/
def compileTerm (plan : JoinPlan) (space : String) (number : Nat) (term : FilterTerm) :
    Outcome (Option Condition × Nat) :=
  match plan.resolve term.field with
  | .error reason => refuse reason
  | .ok (field, column) =>
    if term.operator = .isNull then
      .ok (some (.test (.isNull column term.value.isYes)), number)
    else if term.value.isNull then .ok (none, number)
    else
      match term.operator with
      | .like | .ilike =>
        .ok (some (.test (.like column (field.column.kind ≠ .text) (term.operator = .ilike)
          ⟨bindName space number term.field "", .text (holding term.value.toText), .text⟩)),
          number + 1)
      | .eq | .ne => compileEquality space number term field column
      | operator =>
        match field.column.coerce term.field term.value with
        | .error reason => refuse reason
        | .ok coerced =>
          .ok (some (.test (.compare column operator.comparison
            ⟨bindName space number term.field "", coerced, field.column.type⟩)), number + 1)

/-- The conditions of terms, in order. -/
def compileTerms (plan : JoinPlan) (space : String) (number : Nat) :
    List FilterTerm → Outcome (List Condition × Nat)
  | [] => .ok ([], number)
  | term :: terms => do
    let (condition, next) ← compileTerm plan space number term
    let (conditions, last) ← compileTerms plan space next terms
    return (condition.toList ++ conditions, last)

/-! ## Fields -/

/-- The value of the last term with this operator. -/
def valueUnder? (operator : Operator) (terms : List FilterTerm) : Option Value :=
  (terms.reverse.find? (·.operator = operator)).map (·.value)

/-- The bounds of a field that has a lower and an upper one. -/
def rangeOf? (terms : List FilterTerm) : Option (Value × Value) :=
  match valueUnder? .gte terms, valueUnder? .lte terms with
  | some low, some high => if low.isBlank || high.isBlank then none else some (low, high)
  | _, _ => none

/-- Whether the operator is one of the two bounds of a range. -/
def Operator.isBound (operator : Operator) : Bool := operator = .gte ∨ operator = .lte

/-- The conditions of the terms of one field: the range, then the others in order. -/
def compileField (plan : JoinPlan) (space : String) (number : Nat) (path : String)
    (terms : List FilterTerm) : Outcome (List Condition × Nat) :=
  match rangeOf? terms with
  | none => compileTerms plan space number terms
  | some (low, high) => do
    let (range, next) ← compileRange plan space number path low high
    let (conditions, last) ←
      compileTerms plan space next (terms.filter fun term => !term.operator.isBound)
    return (range :: conditions, last)

/-- The conditions of fields, each with its terms, in order. -/
def compileFields (plan : JoinPlan) (space : String) (number : Nat) :
    List (String × List FilterTerm) → Outcome (List Condition × Nat)
  | [] => .ok ([], number)
  | (path, terms) :: fields => do
    let (conditions, next) ← compileField plan space number path terms
    let (others, last) ← compileFields plan space next fields
    return (conditions ++ others, last)

/-- The fields in the order of their first terms, each with all its terms. -/
def byField (terms : List FilterTerm) : List (String × List FilterTerm) :=
  (terms.map (·.field)).eraseDups.map fun path => (path, terms.filter (·.field = path))

/-- The conditions that terms ask for, all of which have to hold. -/
def compileFilters (plan : JoinPlan) (space : String) (terms : List FilterTerm) :
    Outcome (List Condition) :=
  (compileFields plan space 0 (byField terms)).map (·.1)

/-- The namespace of the parameters of a group. -/
def groupSpace (index : Nat) : String := "or" ++ Nat.repr index ++ "_"

/-- The conditions of groups from the `index`-th on, those of a group taken together. Groups that
ask for nothing are left out. -/
def compileGroups (plan : JoinPlan) (index : Nat) :
    List (List FilterTerm) → Outcome (List Condition)
  | [] => .ok []
  | terms :: groups => do
    let conditions ← compileFilters plan (groupSpace index) terms
    let others ← compileGroups plan (index + 1) groups
    match conditions with
    | [] => return others
    | first :: rest => return .allOf first rest :: others

/-- The condition that one of the groups holds; none if no group asks for anything. -/
def compileOrFilters (plan : JoinPlan) (groups : List (List FilterTerm)) :
    Outcome (Option Condition) := do
  match ← compileGroups plan 0 groups with
  | [] => return none
  | first :: rest => return some (.anyOf first rest)

end RecordListing
