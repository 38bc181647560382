import RecordListing.Proofs.Query.Bounds
import RecordListing.Proofs.Query.FilterKeys

/-!
# One more filter

A term that is added to a field leaves the range of the field as it is, or makes a range of itself
and the other bound. Either way the field holds in no more joined rows than before
(`fieldHolds_of_more`), except where two whole days are merged to a range of days.
-/

set_option autoImplicit false

namespace RecordListing

open Outcome

/-! ## Bounds of a field -/

theorem valueUnder?_more {operator : Operator} {term : FilterTerm} (h : term.operator ≠ operator)
    (before after : List FilterTerm) :
    valueUnder? operator (before ++ term :: after) = valueUnder? operator (before ++ after) := by
  simp [valueUnder?, List.find?_append, h]

theorem valueUnder?_eq_some {operator : Operator} {terms : List FilterTerm} {value : Value}
    (h : valueUnder? operator terms = some value) :
    ∃ term ∈ terms, term.operator = operator ∧ term.value = value := by
  obtain ⟨term, hf, hv⟩ := Option.map_eq_some_iff.1 h
  exact ⟨term, List.mem_reverse.1 (List.mem_of_find?_eq_some hf), by simpa using List.find?_some hf,
    hv⟩

theorem rangeOf?_eq_some {terms : List FilterTerm} {low high : Value}
    (h : rangeOf? terms = some (low, high)) :
    (∃ term ∈ terms, term.operator = .gte ∧ term.value = low) ∧
      ∃ term ∈ terms, term.operator = .lte ∧ term.value = high := by
  unfold rangeOf? at h
  split at h
  · rename_i first last hf hl
    split at h
    · cases h
    · cases h
      exact ⟨valueUnder?_eq_some hf, valueUnder?_eq_some hl⟩
  · cases h

/-- A field without one of the bounds has no range. -/
theorem rangeOf?_eq_none {terms : List FilterTerm} {operator : Operator}
    (bound : operator.isBound = true) (h : ∀ term ∈ terms, term.operator ≠ operator) :
    rangeOf? terms = none := by
  cases hr : rangeOf? terms with
  | none => rfl
  | some range =>
    obtain ⟨⟨low, hl, lower, -⟩, high, hh, upper, -⟩ := rangeOf?_eq_some hr
    have cases : operator = .gte ∨ operator = .lte := by simpa [Operator.isBound] using bound
    rcases cases with rfl | rfl
    · exact absurd lower (h low hl)
    · exact absurd upper (h high hh)

/-- The bounds of a field that has a range are the values of the range. -/
theorem BoundsOnce.value_of_range {terms : List FilterTerm} {path : String} {low high : Value}
    (once : BoundsOnce terms) (fields : ∀ term ∈ terms, term.field = path)
    (range : rangeOf? terms = some (low, high)) {term : FilterTerm} (hm : term ∈ terms)
    (bound : term.operator.isBound = true) :
    term.operator = .gte ∧ term.value = low ∨ term.operator = .lte ∧ term.value = high := by
  obtain ⟨⟨first, hf, lower, rfl⟩, last, hl, upper, rfl⟩ := rangeOf?_eq_some range
  have cases : term.operator = .gte ∨ term.operator = .lte := by
    simpa [Operator.isBound] using bound
  rcases cases with op | op
  · obtain rfl := once.eq hm hf ((fields _ hm).trans (fields _ hf).symm) (op.trans lower.symm) bound
    exact .inl ⟨op, rfl⟩
  · obtain rfl := once.eq hm hl ((fields _ hm).trans (fields _ hl).symm) (op.trans upper.symm) bound
    exact .inr ⟨op, rfl⟩

/-! ## One term more -/

/-- Whether two terms are the bounds of one field and both of them whole days. -/
structure FilterTerm.MergesDays (term other : FilterTerm) : Prop where
  field : other.field = term.field
  bound : term.operator.isBound = true
  other_bound : other.operator.isBound = true
  opposite : other.operator ≠ term.operator
  day : term.value.isDateOnly = true
  other_day : other.value.isDateOnly = true

section
variable {plan : JoinPlan} {joined : JoinedRow} {space path : String} {number : Nat}

theorem mem_more {α : Type} {before after : List α} {item other : α} (h : other ∈ before ++ after) :
    other ∈ before ++ item :: after := by
  rcases List.mem_append.1 h with h | h
  · exact List.mem_append_left _ h
  · exact List.mem_append_right _ (List.mem_cons_of_mem _ h)

theorem compileRange_resolves {low high : Value} {result : Condition × Nat}
    (h : compileRange plan space number path low high = .ok result) :
    ∃ field column, plan.resolve path = .ok (field, column) := by
  unfold compileRange at h
  split at h
  · cases h
  · rename_i field column hr
    exact ⟨field, column, hr⟩

theorem compileField_range {terms : List FilterTerm} {result : List Condition × Nat}
    {low high : Value} (h : compileField plan space number path terms = .ok result)
    (range : rangeOf? terms = some (low, high)) :
    ∃ result, compileRange plan "" 0 path low high = .ok result := by
  simp only [compileField, range, bind_eq_ok_iff] at h
  obtain ⟨first, hf, -⟩ := h
  obtain ⟨first', hf', -⟩ := compileRange_anywhere hf "" 0
  exact ⟨first', hf'⟩

/-- A field with one more term holds in no more joined rows. -/
theorem fieldHolds_of_more {before after : List FilterTerm} {term : FilterTerm}
    {result : List Condition × Nat} (once : BoundsOnce (before ++ term :: after))
    (fields : ∀ other ∈ before ++ term :: after, other.field = path)
    (compiled : compileField plan space number path (before ++ term :: after) = .ok result)
    (days : ∀ other ∈ before ++ after, term.MergesDays other →
      ∀ field column, plan.resolve path = .ok (field, column) →
        KeepsDays field.column.type other.operator ∧
          field.column.type.Stores (joined.cell column))
    (h : FieldHolds plan joined path (before ++ term :: after)) :
    FieldHolds plan joined path (before ++ after) := by
  have mem_term : term ∈ before ++ term :: after := by simp
  by_cases bound : term.operator.isBound = true
  · -- the term is the only one of its kind, so that there was no range before
    have alone : ∀ other ∈ before ++ after, other.operator ≠ term.operator := fun other ho =>
      once.alone bound other ho ((fields other (mem_more ho)).trans (fields term mem_term).symm)
    have none_before : rangeOf? (before ++ after) = none := rangeOf?_eq_none bound alone
    simp only [FieldHolds, none_before]
    intro other ho
    cases range : rangeOf? (before ++ term :: after) with
    | none =>
      simp only [FieldHolds, range] at h
      exact h other (mem_more ho)
    | some ends =>
      obtain ⟨low, high⟩ := ends
      simp only [FieldHolds, range] at h
      cases other_bound : other.operator.isBound with
      | false => exact h.2 other (mem_more ho) other_bound
      | true =>
        -- the other term is the opposite bound, which now is one of a range
        have other_field : other.field = path := fields other (mem_more ho)
        have end_of_other := once.value_of_range fields range (mem_more ho) other_bound
        have end_of_term := once.value_of_range fields range mem_term bound
        obtain ⟨result, hc⟩ := compileField_range compiled range
        obtain ⟨field, column, resolved⟩ := compileRange_resolves hc
        have merges (hlow : low.isDateOnly = true) (hhigh : high.isDateOnly = true) :
            term.MergesDays other := by
          refine ⟨other_field.trans (fields term mem_term).symm, bound, other_bound, alone other ho,
            ?_, ?_⟩
          · rcases end_of_term with ⟨-, e⟩ | ⟨-, e⟩ <;> rw [e] <;> assumption
          · rcases end_of_other with ⟨-, e⟩ | ⟨-, e⟩ <;> rw [e] <;> assumption
        have same_column : column.column = field.column := by
          rw [(JoinPlan.resolve_eq_ok resolved).2]
        subst other_field
        exact bound_of_range resolved same_column end_of_other h.1
          ⟨result, hc⟩ fun hlow hhigh => days other ho (merges hlow hhigh) field column resolved
  · have same : rangeOf? (before ++ term :: after) = rangeOf? (before ++ after) := by
      have others : term.operator ≠ .gte ∧ term.operator ≠ .lte := by
        simpa [Operator.isBound] using bound
      rw [rangeOf?, rangeOf?, valueUnder?_more others.1, valueUnder?_more others.2]
    unfold FieldHolds at h ⊢
    rw [same] at h
    split at h
    · exact fun other ho => h other (mem_more ho)
    · exact ⟨h.1, fun other ho => h.2 other (mem_more ho)⟩

/-- Filters with one more term are met by no more joined rows. -/
theorem met_of_more {before after : List FilterTerm} {term : FilterTerm}
    {conditions others : List Condition} (once : BoundsOnce (before ++ term :: after))
    (compiled : compileFilters plan space (before ++ after) = .ok conditions)
    (compiled' : compileFilters plan space (before ++ term :: after) = .ok others)
    (days : ∀ other ∈ before ++ after, term.MergesDays other →
      ∀ field column, plan.resolve term.field = .ok (field, column) →
        KeepsDays field.column.type other.operator ∧
          field.column.type.Stores (joined.cell column))
    (met : Met joined others) : Met joined conditions := by
  rw [compileFilters_met_iff compiled'] at met
  refine (compileFilters_met_iff compiled).2 fun path => ?_
  have holds := met path
  by_cases here : term.field = path
  · subst here
    have mem_term : term ∈ before ++ term :: after := by simp
    obtain ⟨number, result, field_compiled⟩ := compileFilters_compiles compiled' mem_term
    have own : (before ++ term :: after).filter (·.field = term.field) =
        before.filter (·.field = term.field) ++ term :: after.filter (·.field = term.field) := by
      simp
    have once_own := List.Pairwise.filter (·.field = term.field) once
    have fields : ∀ other ∈ (before ++ term :: after).filter (·.field = term.field),
        other.field = term.field := fun other ho => by simpa using (List.mem_filter.1 ho).2
    rw [own] at holds field_compiled once_own fields
    rw [List.filter_append]
    refine fieldHolds_of_more once_own fields field_compiled (fun other ho => ?_) holds
    rw [← List.filter_append] at ho
    exact days other (List.mem_filter.1 ho).1
  · simpa [here] using holds

end

/-! ## One entry more -/

/-- One more entry is one more term, or none if its field is blocked. -/
theorem parseFilters_more (sentinel : Option String)
    {entries more before after : List (String × Value)}
    {key : String} {value : Value} (h : flattenFilters entries = before ++ after)
    (h' : flattenFilters more = before ++ (key, value) :: after) :
    parseFilters sentinel more = parseFilters sentinel entries ∨
      ∃ front back, parseFilters sentinel entries = front ++ back ∧
        parseFilters sentinel more =
          front ++ FilterTerm.ofEntry sentinel key value :: back := by
  simp only [parseFilters, h, h', List.map_append, List.map_cons, List.filter_append]
  by_cases blocked : isBlockedField (FilterTerm.ofEntry sentinel key value).field = true
  · left
    rw [List.filter_cons_of_neg (by simp [blocked])]
  · right
    exact ⟨_, _, rfl, by rw [List.filter_cons_of_pos (by simp [blocked])]⟩

end RecordListing
