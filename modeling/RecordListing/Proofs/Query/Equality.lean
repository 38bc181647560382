import RecordListing.Proofs.Query.RefusedTexts
import RecordListing.Proofs.Store.CoercedValues
import RecordListing.Proofs.Store.Truth

/-!
# Equality and its negation

What a column is compared with under equality is never nothing. So of the two conditions that a
value gives under equality and under its negation, one is true and the other false, or the column
holds nothing and both are unknown (`equality_opposed`).
-/

set_option autoImplicit false

namespace RecordListing

open Outcome

/-! ## Conditions -/

/-- Whether a second condition is the negation of a first one, and both are unknown exactly where
the column holds nothing. -/
structure Decides (column : ColumnRef) (is isNot : Condition) : Prop where
  negated : ∀ joined, isNot.truth joined = (is.truth joined).not
  unknown : ∀ joined, is.truth joined = .unknown ↔ joined.cell column = .null

section
variable {column : ColumnRef}

theorem compare_decides {bind : Bind} (present : (column.take bind.cell).isNull = false) :
    Decides column (.test (.compare column .eq bind)) (.test (.compare column .ne bind)) :=
  ⟨fun _ => (Cell.not_test .eq .ne (fun _ => rfl) _ _).symm,
    fun _ => Cell.test_eq_unknown _ present⟩

theorem interval_decides {low high : Bind} (hlow : (column.take low.cell).isNull = false)
    (hhigh : (column.take high.cell).isNull = false) :
    Decides column
      (.both (.test (.compare column .gte low)) (.test (.compare column .lt high)))
      (.either (.test (.compare column .lt low)) (.test (.compare column .gte high))) := by
  constructor
  · intro joined
    simp only [Condition.truth, Test.truth, Truth.not_and]
    rw [Cell.not_test .gte .lt (fun o => by cases o <;> rfl),
      Cell.not_test .lt .gte (fun _ => rfl)]
  · exact fun joined =>
      Truth.and_eq_unknown (Cell.test_eq_unknown _ hlow) (Cell.test_eq_unknown _ hhigh)

theorem oneOf_decides {name : String} {values : List Value} (some_value : values ≠ [])
    (present : ∀ value ∈ values,
      (column.take (boundCell column.column.type value)).isNull = false) (other : String) :
    Decides column (.test (.oneOf column true name values))
      (.test (.oneOf column false other values)) := by
  refine ⟨fun _ => rfl, fun joined => Cell.among_eq_unknown (by simpa using some_value) ?_⟩
  simpa using present

end

/-- Whether, if the first outcome is a result, both are a condition and its negation. -/
def Opposed (column : ColumnRef) (x y : Outcome (Option Condition × Nat)) : Prop :=
  ∀ result, x = .ok result → ∃ is isNot next,
    result = (some is, next) ∧ y = .ok (some isNot, next) ∧ Decides column is isNot

section
variable {plan : JoinPlan} {space path : String} {number : Nat} {field : Field} {value : Value}
    (known : field.column.kind ≠ .json ∧ field.column.kind ≠ .other) (hops : List String)
include known

theorem coerce_present {coerced : Value} (h : field.column.coerce path value = .ok coerced) :
    (field.column.type.take (boundCell field.column.type coerced)).isNull = false := by
  unfold Column.coerce at h
  split at h
  · rename_i own
    obtain rfl := Except.ok.inj h
    exact taken_present known own
  · cases h

theorem single_opposed :
    Opposed ⟨hops, field.column⟩
      (compileEquality.single space number ⟨path, .eq, value⟩ field ⟨hops, field.column⟩ false
        value)
      (compileEquality.single space number ⟨path, .ne, value⟩ field ⟨hops, field.column⟩ true
        value) := by
  intro result compiled
  unfold compileEquality.single at compiled ⊢
  cases coerced : field.column.coerce path value with
  | error reason =>
    rw [coerced] at compiled
    cases compiled
  | ok taken =>
    rw [coerced] at compiled
    obtain rfl := Except.ok.inj compiled
    exact ⟨_, _, _, rfl, rfl, compare_decides (coerce_present known coerced)⟩

omit known in
theorem wholeDay_opposed {zoned : Bool} (type : field.column.type = .datetime zoned) (s : String) :
    Opposed ⟨hops, field.column⟩
      (compileEquality.wholeDay space number ⟨path, .eq, value⟩ field ⟨hops, field.column⟩ false
        zoned s)
      (compileEquality.wholeDay space number ⟨path, .ne, value⟩ field ⟨hops, field.column⟩ true
        zoned s) := by
  intro result compiled
  unfold compileEquality.wholeDay at compiled ⊢
  cases bounds : dayBounds zoned s with
  | error failure =>
    rw [bounds] at compiled
    cases compiled
  | ok days =>
    obtain ⟨start, stop⟩ := days
    rw [bounds] at compiled
    obtain rfl := Except.ok.inj compiled
    have taken (name : String) (t : Timestamp) : (ColumnRef.take ⟨hops, field.column⟩
        (Bind.cell ⟨name, .datetime t, field.column.type⟩)).isNull = false := by
      rw [ColumnRef.take, type]
      exact congrArg Cell.isNull (take_wall t)
    exact ⟨_, _, _, rfl, rfl, interval_decides (taken _ _) (taken _ _)⟩

theorem list_opposed {items : List Value} (some_item : items ≠ []) :
    Opposed ⟨hops, field.column⟩
      (compileEquality space number ⟨path, .eq, .list items⟩ field ⟨hops, field.column⟩)
      (compileEquality space number ⟨path, .ne, .list items⟩ field ⟨hops, field.column⟩) := by
  intro result compiled
  have filled : ¬ items.isEmpty = true := by simpa using some_item
  rw [compileEquality_list rfl, if_neg filled] at compiled ⊢
  cases coerced : items.mapM (field.column.coerce path) with
  | error reason =>
    simp only [coerced] at compiled
    cases compiled
  | ok values =>
    simp only [coerced] at compiled ⊢
    obtain rfl := Except.ok.inj compiled
    obtain ⟨each, rfl⟩ := (mapM_eq_ok_iff Value.null).1 coerced
    refine ⟨_, _, _, rfl, rfl, oneOf_decides (by simpa using some_item) ?_ _⟩
    rw [List.forall_mem_map]
    intro item hm
    obtain ⟨taken, own⟩ := each item hm
    rw [own]
    exact coerce_present known own

variable (space number) in
/-- A value that is compiled under equality is so under its negation, to a condition that is the
opposite. -/
theorem equality_opposed {column : ColumnRef} (found : plan.resolve path = .ok (field, column))
    (given : value.isBlank = false) (filled : value.length? ≠ some 0) :
    Opposed column (compileTerm plan space number ⟨path, .eq, value⟩)
      (compileTerm plan space number ⟨path, .ne, value⟩) := by
  obtain ⟨-, rfl⟩ := JoinPlan.resolve_eq_ok found
  obtain ⟨present, text⟩ := Bool.or_eq_false_iff.1 given
  have eq_op : Operator.eq ∈ [.eq, .ne] := by decide
  have ne_op : Operator.ne ∈ [.eq, .ne] := by decide
  have is_term : compileTerm plan space number ⟨path, .eq, value⟩ = _ :=
    compileTerm_equality found eq_op present
  have not_term : compileTerm plan space number ⟨path, .ne, value⟩ = _ :=
    compileTerm_equality found ne_op present
  rw [is_term, not_term]
  cases scalar : value.length? with
  | some n =>
    obtain ⟨items, rfl, rfl⟩ := Value.eq_list_of_length scalar
    exact list_opposed known _ fun none_left => filled (by rw [none_left]; rfl)
  | none =>
    have asks (operator : Operator) (op : operator ∈ [.eq, .ne]) :
        FilterTerm.isSkipped ⟨path, operator, value⟩ = false := by
      rw [isSkipped_equality op present]
      simp [text, scalar]
    cases day : FilterTerm.asksForDay ⟨path, .eq, value⟩ field.column.type with
    | true =>
      obtain ⟨zone, whole⟩ := Bool.and_eq_true_iff.1 day
      obtain ⟨zoned, zone⟩ := Option.isSome_iff_exists.1 zone
      have whole : value.isDateOnly = true := whole
      rw [compileEquality_day eq_op whole zone (asks _ eq_op),
        compileEquality_day ne_op whole zone (asks _ ne_op)]
      exact wholeDay_opposed _ (ColumnType.zoned?_eq_some zone) _
    | false =>
      rw [compileEquality_value eq_op (asks _ eq_op) present scalar day,
        compileEquality_value ne_op (asks _ ne_op) present scalar day]
      exact single_opposed known _

end

end RecordListing
