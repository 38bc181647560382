import RecordListing.Proofs.Query.Equality

/-!
# Equal, different or absent

The conditions that a filter gives for equality with a value, for its negation and for absence
split the joined rows: of each row exactly one of them is true, and presence is true where one of
the first two is (`equality_partitions`).
-/

set_option autoImplicit false

namespace RecordListing

open Outcome

/-- Whether exactly one of three conditions is true of a joined row, and a fourth one is true
exactly if one of the first two is. -/
structure Partition (is isNot absent present : Condition) (joined : JoinedRow) : Prop where
  one : [is, isNot, absent].countP (fun condition => condition.truth joined = .yes) = 1
  present : present.truth joined = .yes ↔ is.truth joined = .yes ∨ isNot.truth joined = .yes

theorem Decides.partition {column : ColumnRef} {is isNot : Condition}
    (h : Decides column is isNot) (joined : JoinedRow) :
    Partition is isNot (.test (.isNull column true)) (.test (.isNull column false)) joined := by
  have negated := h.negated joined
  have unknown := h.unknown joined
  have absent (wanted : Bool) : (Condition.test (.isNull column wanted)).truth joined =
      .ofBool ((joined.cell column).isNull == wanted) := rfl
  cases null : (joined.cell column).isNull with
  | true =>
    have nothing : is.truth joined = .unknown := unknown.2 (of_decide_eq_true null)
    rw [nothing] at negated
    constructor <;> simp [nothing, negated, absent, null, Truth.not, Truth.ofBool]
  | false =>
    have something : is.truth joined ≠ .unknown := fun e => of_decide_eq_false null (unknown.1 e)
    cases first : is.truth joined with
    | unknown => exact absurd first something
    | yes =>
      rw [first] at negated
      constructor <;> simp [first, negated, absent, null, Truth.not, Truth.ofBool]
    | no =>
      rw [first] at negated
      constructor <;> simp [first, negated, absent, null, Truth.not, Truth.ofBool]

section
variable {plan : JoinPlan} {space path : String} {field : Field} {column : ColumnRef}
    {sentinel : Option String} {value : Value}

theorem compileFilters_presence (found : plan.resolve path = .ok (field, column))
    (named : path ≠ "") (absent : Bool) :
    compileFilters plan space [.ofEntry sentinel (Operator.isNull.key path) (.bool absent)] =
      .ok [.test (.isNull column absent)] := by
  have term : FilterTerm.ofEntry sentinel (Operator.isNull.key path) (.bool absent) =
      ⟨path, .isNull, .bool absent⟩ := ofEntry_eq (splitKey_key named (by decide)) rfl
  have asked : (Value.bool absent).isYes = absent := by cases absent <;> rfl
  rw [term, compileFilters_single, compileTerm, found]
  simp only [if_true, asked]
  rfl

/-- Equality with a value, its negation and absence split the joined rows. -/
theorem equality_partitions {conditions : List Condition}
    (found : plan.resolve path = .ok (field, column))
    (known : field.column.kind ≠ .json ∧ field.column.kind ≠ .other)
    (key : splitKey path = (path, .eq)) (named : path ≠ "") (given : value.isBlank = false)
    (filled : value.length? ≠ some 0) (plain : isSentinel sentinel value = false)
    (compiled : compileFilters plan space [.ofEntry sentinel path value] = .ok conditions) :
    ∃ is isNot absent present, conditions = [is] ∧
      compileFilters plan space [.ofEntry sentinel (Operator.ne.key path) value] = .ok [isNot] ∧
      compileFilters plan space [.ofEntry sentinel (Operator.isNull.key path) (.bool true)] =
        .ok [absent] ∧
      compileFilters plan space [.ofEntry sentinel (Operator.isNull.key path) (.bool false)] =
        .ok [present] ∧
      ∀ joined, Partition is isNot absent present joined := by
  have opposed := equality_opposed space 0 known found given filled
  rw [ofEntry_eq key plain, compileFilters_single, map_eq_ok_iff] at compiled
  obtain ⟨result, compiled, rfl⟩ := compiled
  obtain ⟨is, isNot, next, rfl, compiled_not, decides⟩ := opposed result compiled
  have not_key := splitKey_key named (show Operator.ne ∈ Operator.written by decide)
  refine ⟨is, isNot, _, _, rfl, ?_, compileFilters_presence found named true,
    compileFilters_presence found named false, decides.partition⟩
  rw [ofEntry_eq not_key plain, compileFilters_single, compiled_not]
  rfl

end

namespace Sample

/-- Pairs of things with their widgets joined. -/
def pairedWidgets : JoinPlan where
  registry := registry
  root := pairing
  steps := [⟨["widget"], .mk "widget" "widget" (.toOne "widget_id" "id") (by decide), widget⟩]

end Sample

theorem equality_partitions_paired :
    let path := "widget.stamped"
    let day := Value.text "2024-02-29"
    let key := FilterTerm.ofEntry (some "__NULL__")
    ∃ target conditions, Sample.pairedWidgets.resolve path = .ok target ∧
      (target.1.column.kind ≠ .json ∧ target.1.column.kind ≠ .other) ∧
      splitKey path = (path, .eq) ∧ path ≠ "" ∧ day.isBlank = false ∧ day.length? ≠ some 0 ∧
      isSentinel (some "__NULL__") day = false ∧
      compileFilters Sample.pairedWidgets "" [key path day] = .ok conditions ∧
      ∃ is isNot absent present, conditions = [is] ∧
        compileFilters Sample.pairedWidgets "" [key (Operator.ne.key path) day] = .ok [isNot] ∧
        compileFilters Sample.pairedWidgets "" [key (Operator.isNull.key path) (.bool true)] =
          .ok [absent] ∧
        compileFilters Sample.pairedWidgets "" [key (Operator.isNull.key path) (.bool false)] =
          .ok [present] ∧
        ∀ joined, Partition is isNot absent present joined := by
  intro path day key
  obtain ⟨target, found, known⟩ := @exists_ok_of_any _ _ (Sample.pairedWidgets.resolve path)
    (fun target => target.1.column.kind = .datetime) (by decide +kernel)
  obtain ⟨conditions, compiled, -⟩ := @exists_ok_of_any _ _
    (compileFilters Sample.pairedWidgets "" [key path day]) (fun _ => true) (by decide +kernel)
  have kind : target.1.column.kind ≠ .json ∧ target.1.column.kind ≠ .other := by
    rw [of_decide_eq_true known]
    decide
  have parts : splitKey path = (path, .eq) := by decide +kernel
  have named : path ≠ "" := by decide
  refine ⟨target, conditions, found, kind, parts, named, rfl, by decide, rfl, compiled, ?_⟩
  exact equality_partitions found kind parts named rfl (by decide) rfl compiled

end RecordListing
