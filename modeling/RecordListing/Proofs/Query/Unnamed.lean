import RecordListing.Store.Matching
import RecordListing.Proofs.Outcome

/-!
# Names of parameters

Parameters are named after where they stand in a request. Their names say nothing about what a
condition comes to (`truth_unnamed`), and they are all that the number and the namespace of a filter
decide (`compileTerm_unnamed`, `compileRange_unnamed`).
-/

set_option autoImplicit false

namespace RecordListing

open Outcome Text

def Bind.unnamed (bind : Bind) : Bind := { bind with name := "" }

def Test.unnamed : Test → Test
  | .compare column comparison bind => .compare column comparison bind.unnamed
  | .isNull column absent => .isNull column absent
  | .like column cast anyCase bind => .like column cast anyCase bind.unnamed
  | .between column low high => .between column low.unnamed high.unnamed
  | .dayBetween column low high => .dayBetween column low.unnamed high.unnamed
  | .oneOf column among _ values => .oneOf column among "" values
  | .isTruth column truth => .isTruth column truth

/-- The condition without the names of its parameters. -/
def Condition.unnamed : Condition → Condition
  | .never => .never
  | .test t => .test t.unnamed
  | .both left right => .both left.unnamed right.unnamed
  | .either left right => .either left.unnamed right.unnamed

theorem Condition.truth_unnamed (joined : JoinedRow) :
    ∀ condition : Condition, condition.unnamed.truth joined = condition.truth joined
  | .never => rfl
  | .test t => by cases t <;> rfl
  | .both left right => by
    simp only [unnamed, truth, truth_unnamed joined left, truth_unnamed joined right]
  | .either left right => by
    simp only [unnamed, truth, truth_unnamed joined left, truth_unnamed joined right]

section
variable (plan : JoinPlan) (space other : String) (number next : Nat)

theorem bounded_unnamed (path : String) (low high : Value) (field : Field) (column : ColumnRef)
    (lowName highName lowName' highName' : String) :
    (compileRange.bounded number path low high field column lowName highName).map
        (·.1.unnamed) =
      (compileRange.bounded next path low high field column lowName' highName').map
        (·.1.unnamed) := by
  unfold compileRange.bounded
  cases field.column.coerce path low <;> cases field.column.coerce path high <;> rfl

theorem compileRange_unnamed (path : String) (low high : Value) :
    (compileRange plan space number path low high).map (·.1.unnamed) =
      (compileRange plan other next path low high).map (·.1.unnamed) := by
  unfold compileRange
  cases plan.resolve path with
  | error reason => rfl
  | ok target =>
    obtain ⟨field, column⟩ := target
    dsimp only
    split
    · split
      · rename_i lowText highText _
        cases readDay lowText with
        | error failure => rfl
        | ok first => cases readDay highText <;> rfl
      · exact bounded_unnamed _ _ _ _ _ _ _ _ _ _ _
    · exact bounded_unnamed _ _ _ _ _ _ _ _ _ _ _

theorem single_unnamed (term : FilterTerm) (field : Field) (column : ColumnRef) (negated : Bool)
    (value : Value) :
    (compileEquality.single space number term field column negated value).map
        (·.1.map Condition.unnamed) =
      (compileEquality.single other next term field column negated value).map
        (·.1.map Condition.unnamed) := by
  unfold compileEquality.single
  cases field.column.coerce term.field value <;> rfl

theorem wholeDay_unnamed (term : FilterTerm) (field : Field) (column : ColumnRef)
    (negated zoned : Bool) (s : String) :
    (compileEquality.wholeDay space number term field column negated zoned s).map
        (·.1.map Condition.unnamed) =
      (compileEquality.wholeDay other next term field column negated zoned s).map
        (·.1.map Condition.unnamed) := by
  unfold compileEquality.wholeDay
  cases dayBounds zoned s with
  | error failure => rfl
  | ok bounds => cases negated <;> rfl

theorem compileEquality_unnamed (term : FilterTerm) (field : Field) (column : ColumnRef) :
    (compileEquality space number term field column).map (·.1.map Condition.unnamed) =
      (compileEquality other next term field column).map (·.1.map Condition.unnamed) := by
  unfold compileEquality
  dsimp only
  split
  · rfl
  · split
    · rfl
    · rename_i items _ _
      cases items.mapM (field.column.coerce term.field) <;> rfl
    · split
      · exact wholeDay_unnamed _ _ _ _ _ _ _ _ _ _
      · exact single_unnamed _ _ _ _ _ _ _ _ _
    · exact single_unnamed _ _ _ _ _ _ _ _ _

theorem compileTerm_unnamed (term : FilterTerm) :
    (compileTerm plan space number term).map (·.1.map Condition.unnamed) =
      (compileTerm plan other next term).map (·.1.map Condition.unnamed) := by
  unfold compileTerm
  cases plan.resolve term.field with
  | error reason => rfl
  | ok target =>
    obtain ⟨field, column⟩ := target
    dsimp only
    split
    · rfl
    · split
      · rfl
      · split
        · rfl
        · rfl
        · exact compileEquality_unnamed _ _ _ _ _ _ _
        · exact compileEquality_unnamed _ _ _ _ _ _ _
        · cases field.column.coerce term.field term.value <;> rfl

end

end RecordListing
