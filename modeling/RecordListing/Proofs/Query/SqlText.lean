import RecordListing.Query.Sql
import RecordListing.Proofs.Outcome

/-!
# The text of a statement without its values

What the text of a condition shows are columns, operators and the names of parameters, and of a list
how long it is. So a statement has the same text if all values of its conditions are taken away
(`countText_congr`, `dataText_congr`).
-/

set_option autoImplicit false

namespace RecordListing

/-- The name and the type of a parameter without its value. -/
def Bind.emptied (bind : Bind) : Bind := { bind with value := .null }

def Test.emptied : Test → Test
  | .compare column comparison bind => .compare column comparison bind.emptied
  | .isNull column absent => .isNull column absent
  | .like column cast anyCase bind => .like column cast anyCase bind.emptied
  | .between column low high => .between column low.emptied high.emptied
  | .dayBetween column low high => .dayBetween column low.emptied high.emptied
  | .oneOf column among name values => .oneOf column among name (values.map fun _ => .null)
  | .isTruth column truth => .isTruth column truth

/-- The condition without the values of its parameters; a list keeps its length. -/
def Condition.emptied : Condition → Condition
  | .never => .never
  | .test t => .test t.emptied
  | .both left right => .both left.emptied right.emptied
  | .either left right => .either left.emptied right.emptied

namespace Condition

theorem emptied_allOf (first : Condition) (rest : List Condition) :
    (allOf first rest).emptied = allOf first.emptied (rest.map emptied) := by
  induction rest generalizing first with
  | nil => rfl
  | cons next rest ih => simp only [allOf, emptied, ih, List.map_cons]

theorem emptied_anyOf (first : Condition) (rest : List Condition) :
    (anyOf first rest).emptied = anyOf first.emptied (rest.map emptied) := by
  induction rest generalizing first with
  | nil => rfl
  | cons next rest ih => simp only [anyOf, emptied, ih, List.map_cons]

end Condition

namespace Sql

/-! ## Conditions -/

theorem testText_emptied (root : Entity) (test : Test) :
    testText root test.emptied = testText root test := by
  cases test <;> simp only [Test.emptied, testText, bindText, Bind.emptied, List.length_map]

theorem conditionText_emptied (root : Entity) :
    ∀ (inside : Bool) (condition : Condition),
      conditionText root inside condition.emptied = conditionText root inside condition
  | _, .never => rfl
  | _, .test t => testText_emptied root t
  | _, .both left right | _, .either left right => by
    simp only [Condition.emptied, conditionText, conditionText_emptied root _ left,
      conditionText_emptied root _ right]

theorem testNames_emptied (test : Test) :
    (testParams test.emptied).map (·.1) = (testParams test).map (·.1) := by
  cases test with
  | oneOf column among name values =>
    have length (values : List Value) : (itemNames name values.length).length = values.length := by
      simp [itemNames]
    simp only [Test.emptied, testParams]
    rw [List.map_fst_zip (Nat.le_of_eq (length _)), List.map_fst_zip (Nat.le_of_eq (length _)),
      List.length_map]
  | _ => rfl

theorem conditionNames_emptied :
    ∀ condition : Condition,
      (conditionParams condition.emptied).map (·.1) = (conditionParams condition).map (·.1)
  | .never => rfl
  | .test t => testNames_emptied t
  | .both left right | .either left right => by
    simp only [Condition.emptied, conditionParams, List.map_append, conditionNames_emptied left,
      conditionNames_emptied right]

theorem isHopeless_emptied (conditions : List Condition) :
    isHopeless (conditions.map Condition.emptied) = isHopeless conditions := by
  simp only [isHopeless, List.any_map]
  refine congrArg conditions.any (funext fun condition => ?_)
  cases condition <;> rfl

theorem whereText_emptied (root : Entity) (conditions : List Condition) :
    whereText root (conditions.map Condition.emptied) = whereText root conditions := by
  simp only [whereText, isHopeless_emptied, List.map_map, List.length_map, Function.comp_def,
    conditionText_emptied]

theorem whereNames_emptied (conditions : List Condition) :
    (whereParams (conditions.map Condition.emptied)).map (·.1) =
      (whereParams conditions).map (·.1) := by
  unfold whereParams
  rw [isHopeless_emptied]
  split
  · rfl
  · simp only [List.flatMap_map, List.map_flatMap, conditionNames_emptied]

/-! ## Statements -/

/-- Whether two listings join and sort alike and have conditions that differ in values alone. -/
structure SameBut (listing other : Listing) : Prop where
  plan : listing.plan = other.plan
  sorting : listing.sorting = other.sorting
  conditions : listing.conditions.map Condition.emptied = other.conditions.map Condition.emptied

section
variable {listing other : Listing} (h : SameBut listing other)
include h

theorem filterText_congr : filterText listing = filterText other := by
  have emptiness : listing.conditions.isEmpty = other.conditions.isEmpty := by
    rw [← List.isEmpty_map (f := Condition.emptied), h.conditions, List.isEmpty_map]
  have text : whereText other.plan.root listing.conditions =
      whereText other.plan.root other.conditions := by
    rw [← whereText_emptied, h.conditions, whereText_emptied]
  unfold filterText
  rw [h.plan, emptiness, text]

theorem groupText_congr : groupText listing = groupText other := by
  unfold groupText
  rw [h.plan]

theorem countText_congr : countText listing = countText other := by
  unfold countText
  rw [filterText_congr h, groupText_congr h, h.plan]

theorem dataText_congr : dataText listing = dataText other := by
  unfold dataText
  rw [filterText_congr h, groupText_congr h, h.plan, h.sorting]

theorem dataNames_congr :
    (dataParams listing).map (·.1) = (dataParams other).map (·.1) := by
  unfold dataParams
  rw [List.map_append, List.map_append, ← whereNames_emptied listing.conditions, h.conditions,
    whereNames_emptied]
  rfl

end

end Sql

end RecordListing
