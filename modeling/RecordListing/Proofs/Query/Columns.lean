import RecordListing.Store.Matching
import RecordListing.Proofs.Query.Path

/-!
# Columns of conditions

What a condition comes to depends only on the cells of the columns that it tests (`truth_congr`).
A plan resolves paths to columns that it has joined (`resolve_has`).
-/

set_option autoImplicit false

namespace RecordListing

open Outcome

/-- Whether all conditions are true of a joined row. -/
def Met (joined : JoinedRow) (conditions : List Condition) : Prop :=
  ∀ condition ∈ conditions, condition.truth joined = .yes

section
variable {joined : JoinedRow}

theorem met_append {conditions others : List Condition} :
    Met joined (conditions ++ others) ↔ Met joined conditions ∧ Met joined others :=
  List.forall_mem_append

theorem met_singleton {condition : Condition} :
    Met joined [condition] ↔ condition.truth joined = .yes :=
  List.forall_mem_singleton

theorem met_cons {condition : Condition} {conditions : List Condition} :
    Met joined (condition :: conditions) ↔
      condition.truth joined = .yes ∧ Met joined conditions :=
  List.forall_mem_cons

end

/-- The column that is tested. -/
def Test.column : Test → ColumnRef
  | .compare column _ _ | .isNull column _ | .like column _ _ _ | .between column _ _
  | .dayBetween column _ _ | .oneOf column _ _ _ | .isTruth column _ => column

/-- Whether all columns that a condition tests are such columns. -/
def Condition.Over (known : ColumnRef → Prop) : Condition → Prop
  | .never => True
  | .test t => known t.column
  | .both left right | .either left right => left.Over known ∧ right.Over known

namespace Condition

theorem Over.imp {known other : ColumnRef → Prop} (h : ∀ column, known column → other column) :
    ∀ {condition : Condition}, condition.Over known → condition.Over other
  | .never, _ => trivial
  | .test t, hc => h t.column hc
  | .both _ _, hc | .either _ _, hc => ⟨Over.imp h hc.1, Over.imp h hc.2⟩

theorem Over.and {known other : ColumnRef → Prop} :
    ∀ {condition : Condition}, condition.Over known → condition.Over other →
      condition.Over fun column => known column ∧ other column
  | .never, _, _ => trivial
  | .test _, h, h' => ⟨h, h'⟩
  | .both _ _, h, h' | .either _ _, h, h' => ⟨Over.and h.1 h'.1, Over.and h.2 h'.2⟩

theorem truth_congr {joined other : JoinedRow} :
    ∀ {condition : Condition},
      condition.Over (fun column => joined.cell column = other.cell column) →
      condition.truth joined = condition.truth other
  | .never, _ => rfl
  | .test t, h => by
    cases t <;> simp only [Over, Test.column] at h <;> simp only [truth, Test.truth, h]
  | .both _ _, h => by simp only [truth, truth_congr h.1, truth_congr h.2]
  | .either _ _, h => by simp only [truth, truth_congr h.1, truth_congr h.2]

theorem over_allOf {known : ColumnRef → Prop} {first : Condition} {rest : List Condition}
    (h : ∀ condition ∈ first :: rest, condition.Over known) : (allOf first rest).Over known := by
  induction rest generalizing first with
  | nil => exact h first List.mem_cons_self
  | cons next rest ih =>
    exact ⟨h first List.mem_cons_self, ih fun c hc => h c (List.mem_cons_of_mem _ hc)⟩

theorem over_anyOf {known : ColumnRef → Prop} {first : Condition} {rest : List Condition}
    (h : ∀ condition ∈ first :: rest, condition.Over known) : (anyOf first rest).Over known := by
  induction rest generalizing first with
  | nil => exact h first List.mem_cons_self
  | cons next rest ih =>
    exact ⟨h first List.mem_cons_self, ih fun c hc => h c (List.mem_cons_of_mem _ hc)⟩

/-! ### Truth -/

theorem and_eq_yes {a b : Truth} : a.and b = .yes ↔ a = .yes ∧ b = .yes := by
  cases a <;> cases b <;> simp [Truth.and]

theorem or_eq_yes {a b : Truth} : a.or b = .yes ↔ a = .yes ∨ b = .yes := by
  cases a <;> cases b <;> simp [Truth.or]

theorem truth_allOf {joined : JoinedRow} {first : Condition} {rest : List Condition} :
    (allOf first rest).truth joined = .yes ↔ Met joined (first :: rest) := by
  induction rest generalizing first with
  | nil => exact met_singleton.symm
  | cons next rest ih =>
    rw [allOf, truth, and_eq_yes, ih]
    exact met_cons.symm

theorem truth_anyOf {joined : JoinedRow} {first : Condition} {rest : List Condition} :
    (anyOf first rest).truth joined = .yes ↔
      ∃ condition ∈ first :: rest, condition.truth joined = .yes := by
  induction rest generalizing first with
  | nil => simp [anyOf]
  | cons next rest ih =>
    simp only [anyOf, truth, or_eq_yes, ih, List.mem_cons, exists_eq_or_imp]

end Condition

/-- Whether the plan has joined the table of a column. -/
def JoinPlan.Has (plan : JoinPlan) (column : ColumnRef) : Prop :=
  column.hops = [] ∨ reaches plan.steps column.hops = true

theorem JoinPlan.resolve_has {plan : JoinPlan} {path : String} {field : Field} {column : ColumnRef}
    (h : plan.resolve path = .ok (field, column)) : plan.Has column := by
  unfold resolve at h
  split at h
  · cases h
  · split at h
    · rename_i joined
      cases h
      simpa [Has] using joined
    · cases h

end RecordListing
