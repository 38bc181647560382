import RecordListing.Proofs.Query.FilterMeaning
import RecordListing.Proofs.Query.WholeDays
import RecordListing.Proofs.Store.StoredTimes

/-!
# Bounds and ranges

A range of a lower and an upper bound is no wider than either of them, unless both are whole days:
then it is a range of days (`bound_of_range`), which may hold where the bound of a point in time
does not.
-/

set_option autoImplicit false

namespace RecordListing

open Outcome Text

/-! ## Bounds -/

theorem betweenCells_eq_yes {low high cell : Cell} :
    betweenCells low high cell = .yes ↔
      Cell.test Comparison.gte.wants cell low = .yes ∧
        Cell.test Comparison.lte.wants cell high = .yes :=
  Condition.and_eq_yes

section
variable {plan : JoinPlan} {joined : JoinedRow} {field : Field} {column : ColumnRef}

/-- A bound holds if the cell of its column compares as it should with the coerced value. -/
theorem FilterTerm.holds_bound {term : FilterTerm}
    (resolved : plan.resolve term.field = .ok (field, column))
    (bound : term.operator.isBound = true)
    (h : ∀ value, field.column.coerce term.field term.value = .ok value →
      Cell.test term.operator.comparison.wants (joined.cell column)
        (column.take (boundCell field.column.type value)) = .yes) :
    term.Holds plan joined := by
  intro result hr
  have not_null : term.operator ≠ .isNull := by
    rintro e
    rw [e] at bound
    cases bound
  simp only [compileTerm, resolved, not_null, if_false] at hr
  split at hr
  · cases hr
    exact fun _ hc => absurd hc List.not_mem_nil
  · split at hr
    · rename_i e
      rw [e] at bound
      cases bound
    · rename_i e
      rw [e] at bound
      cases bound
    · rename_i e
      rw [e] at bound
      cases bound
    · rename_i e
      rw [e] at bound
      cases bound
    · cases hc : field.column.coerce term.field term.value with
      | error reason =>
        rw [hc] at hr
        cases hr
      | ok value =>
        rw [hc] at hr
        cases hr
        exact met_singleton.2 (h value hc)

/-- A range holds if the coerced bounds do, or if it is one of days and holds of the day. -/
theorem RangeHolds.cases {path : String} {low high : Value}
    (resolved : plan.resolve path = .ok (field, column))
    (h : RangeHolds plan joined path low high)
    (compiled : ∃ result, compileRange plan "" 0 path low high = .ok result) :
    (∃ first last, field.column.coerce path low = .ok first ∧
      field.column.coerce path high = .ok last ∧
      Cell.test Comparison.gte.wants (joined.cell column)
        (column.take (boundCell field.column.type first)) = .yes ∧
      Cell.test Comparison.lte.wants (joined.cell column)
        (column.take (boundCell field.column.type last)) = .yes) ∨
    ∃ lowText highText first last, low = .text lowText ∧ high = .text highText ∧
      isDateOnly lowText = true ∧ isDateOnly highText = true ∧
      readDay lowText = .ok first ∧ readDay highText = .ok last ∧
      Cell.test Comparison.gte.wants (joined.cell column).day (.text first.text) = .yes ∧
      Cell.test Comparison.lte.wants (joined.cell column).day (.text last.text) = .yes := by
  obtain ⟨result, hr⟩ := compiled
  have met := met_singleton.1 (h result hr)
  have bounds {number : Nat} {lowName highName : String}
      (hb : compileRange.bounded number path low high field column lowName highName = .ok result) :
      ∃ first last, field.column.coerce path low = .ok first ∧
        field.column.coerce path high = .ok last ∧
        Cell.test Comparison.gte.wants (joined.cell column)
          (column.take (boundCell field.column.type first)) = .yes ∧
        Cell.test Comparison.lte.wants (joined.cell column)
          (column.take (boundCell field.column.type last)) = .yes := by
    unfold compileRange.bounded at hb
    split at hb
    · rename_i first last hl hh
      cases hb
      exact ⟨first, last, hl, hh, betweenCells_eq_yes.1 met⟩
    · cases hb
    · cases hb
  simp only [compileRange, resolved] at hr
  split at hr
  · rename_i lowText highText
    split at hr
    · rename_i days
      obtain ⟨first, hf, last, hl, he⟩ : ∃ first, readDay lowText = .ok first ∧ ∃ last,
          readDay highText = .ok last ∧ _ = Except.ok result := by
        simpa only [bind_eq_ok_iff] using hr
      cases he
      obtain ⟨hlow, hhigh⟩ := Bool.and_eq_true_iff.1 days
      exact .inr ⟨lowText, highText, first, last, rfl, rfl, hlow, hhigh, hf, hl,
        betweenCells_eq_yes.1 met⟩
    · exact .inl (bounds hr)
  · exact .inl (bounds hr)

end

/-! ## Bounds of a range -/

theorem test_gte_text {a b : String} :
    Cell.test Comparison.gte.wants (.text a) (.text b) = .yes ↔
      Cell.compare (.text a) (.text b) ≠ .lt := by
  simp only [Cell.test, Cell.isNull, Comparison.wants, Truth.ofBool]
  cases Cell.compare (.text a) (.text b) <;> simp

theorem test_null (wanted : Ordering → Bool) (cell : Cell) :
    Cell.test wanted Cell.null.day cell ≠ .yes := by
  simp [Cell.test, Cell.day, Cell.isNull]

/-- Whether a range of whole days is no wider than this bound of it: so it is of days, of points in
time if the bound is the lower one, and where no day is taken as a bound alone. -/
def KeepsDays (type : ColumnType) (operator : Operator) : Prop :=
  type = .date ∨ (∃ zoned, type = .datetime zoned) ∧ operator = .gte ∨ type.takesNoDay = true

/-- A bound holds where a range with it holds, unless both bounds are whole days and the bound is
one that such a range may pass. -/
theorem bound_of_range {plan : JoinPlan} {joined : JoinedRow} {term : FilterTerm} {field : Field}
    {column : ColumnRef} {low high : Value}
    (resolved : plan.resolve term.field = .ok (field, column)) (same : column.column = field.column)
    (bound : term.operator = .gte ∧ term.value = low ∨ term.operator = .lte ∧ term.value = high)
    (h : RangeHolds plan joined term.field low high)
    (compiled : ∃ result, compileRange plan "" 0 term.field low high = .ok result)
    (days : low.isDateOnly = true → high.isDateOnly = true →
      KeepsDays field.column.type term.operator ∧ field.column.type.Stores (joined.cell column)) :
    term.Holds plan joined := by
  refine FilterTerm.holds_bound resolved (by rcases bound with ⟨e, -⟩ | ⟨e, -⟩ <;> rw [e] <;> rfl)
    fun value hv => ?_
  rcases h.cases resolved compiled with ⟨first, last, hf, hl, ge, le⟩ |
    ⟨lowText, highText, first, last, rfl, rfl, hlow, hhigh, hf, hl, ge, le⟩
  · rcases bound with ⟨hop, rfl⟩ | ⟨hop, rfl⟩
    · rw [hf] at hv
      cases hv
      rwa [hop]
    · rw [hl] at hv
      cases hv
      rwa [hop]
  · obtain ⟨keeps, stores⟩ := days hlow hhigh
    rcases keeps with type | ⟨⟨zoned, type⟩, hop⟩ | none_taken
    · rw [type] at stores
      rcases stores with null | ⟨d, stored⟩
      · rw [null] at ge
        exact absurd ge (test_null _ _)
      · rw [stored, day_date] at ge le
        have taken (day : Date) : column.take (boundCell field.column.type (.date day)) =
            .text day.text := by
          rw [ColumnRef.take, same, type]
          exact take_date day
        rcases bound with ⟨hop, hval⟩ | ⟨hop, hval⟩
        · rw [hval, coerce_date hlow hf _ _ type] at hv
          cases hv
          rw [hop, stored, taken]
          exact ge
        · rw [hval, coerce_date hhigh hl _ _ type] at hv
          cases hv
          rw [hop, stored, taken]
          exact le
    · obtain ⟨-, hval⟩ := bound.resolve_right fun b => by
        rw [hop] at b
        cases b.1
      obtain ⟨t, ht, wall⟩ := coerce_datetime hlow hf field.column term.field type
      rw [hval, ht] at hv
      cases hv
      rw [type] at stores
      rcases stores with null | ⟨stamp, stored⟩
      · rw [null] at ge
        exact absurd ge (test_null _ _)
      · rw [stored, day_wall] at ge
        have taken : column.take (boundCell field.column.type (.datetime t)) =
            .text (Timestamp.startOf first).wallText := by
          rw [ColumnRef.take, same, type, ← wall]
          exact take_wall t
        rw [hop, stored, taken]
        exact test_gte_text.2 (le_wall_of_le_day (test_gte_text.1 ge))
    · -- the bound alone was not compiled
      obtain ⟨text, only, hval⟩ : ∃ text, isDateOnly text = true ∧ term.value = .text text := by
        rcases bound with ⟨-, hval⟩ | ⟨-, hval⟩
        · exact ⟨lowText, hlow, hval⟩
        · exact ⟨highText, hhigh, hval⟩
      rw [hval, Column.coerce, coerce?_day_eq_none only none_taken] at hv
      cases hv

end RecordListing
