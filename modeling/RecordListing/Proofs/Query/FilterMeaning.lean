import RecordListing.Proofs.Query.Columns
import RecordListing.Proofs.Query.Congruence
import RecordListing.Proofs.Query.Unnamed

/-!
# What filters ask for

The conditions that a filter map is compiled to are met by a joined row if each of its fields holds
there (`compileFilters_met_iff`): the range of a lower and an upper bound, and what each of the
other terms asks for by itself, wherever they stand.
-/

set_option autoImplicit false

namespace RecordListing

open Outcome

section
variable (plan : JoinPlan) (joined : JoinedRow)

/-- Whether what a term asks for is true of a joined row. -/
def FilterTerm.Holds (term : FilterTerm) : Prop :=
  ∀ result, compileTerm plan "" 0 term = .ok result → Met joined result.1.toList

/-- Whether a column of a joined row lies in a range. -/
def RangeHolds (path : String) (low high : Value) : Prop :=
  ∀ result, compileRange plan "" 0 path low high = .ok result → Met joined [result.1]

/-- Whether what the terms of one field ask for is true of a joined row. -/
def FieldHolds (path : String) (terms : List FilterTerm) : Prop :=
  match rangeOf? terms with
  | none => ∀ term ∈ terms, term.Holds plan joined
  | some (low, high) =>
    RangeHolds plan joined path low high ∧
      ∀ term ∈ terms, term.operator.isBound = false → term.Holds plan joined

end

section
variable {plan : JoinPlan} {joined : JoinedRow} {space : String} {number : Nat}

theorem met_map_unnamed {conditions : List Condition} :
    Met joined (conditions.map Condition.unnamed) ↔ Met joined conditions := by
  simp [Met, Condition.truth_unnamed]

theorem met_congr {conditions others : List Condition}
    (h : conditions.map Condition.unnamed = others.map Condition.unnamed) :
    Met joined conditions ↔ Met joined others := by
  rw [← met_map_unnamed, h, met_map_unnamed]

/-- A term asks for the same wherever it stands. -/
theorem compileTerm_anywhere {term : FilterTerm} {result : Option Condition × Nat}
    (h : compileTerm plan space number term = .ok result) (other : String) (next : Nat) :
    ∃ result', compileTerm plan other next term = .ok result' ∧
      result'.1.toList.map Condition.unnamed = result.1.toList.map Condition.unnamed := by
  have same := compileTerm_unnamed plan space other number next term
  rw [h, map_ok, eq_comm, map_eq_ok_iff] at same
  obtain ⟨result', hr, he⟩ := same
  exact ⟨result', hr, by rw [← Option.toList_map, he, Option.toList_map]⟩

theorem met_term_iff {term : FilterTerm} {result : Option Condition × Nat}
    (h : compileTerm plan space number term = .ok result) :
    Met joined result.1.toList ↔ term.Holds plan joined := by
  obtain ⟨result', hr, he⟩ := compileTerm_anywhere h "" 0
  constructor
  · intro met other ho
    rw [hr] at ho
    cases ho
    exact (met_congr he).2 met
  · exact fun holds => (met_congr he).1 (holds result' hr)

theorem compileRange_anywhere {path : String} {low high : Value} {result : Condition × Nat}
    (h : compileRange plan space number path low high = .ok result) (other : String) (next : Nat) :
    ∃ result', compileRange plan other next path low high = .ok result' ∧
      result'.1.unnamed = result.1.unnamed := by
  have same := compileRange_unnamed plan space other number next path low high
  rwa [h, map_ok, eq_comm, map_eq_ok_iff] at same

theorem met_range_iff {path : String} {low high : Value} {result : Condition × Nat}
    (h : compileRange plan space number path low high = .ok result) :
    Met joined [result.1] ↔ RangeHolds plan joined path low high := by
  obtain ⟨result', hr, he⟩ := compileRange_anywhere h "" 0
  have he : [result'.1].map Condition.unnamed = [result.1].map Condition.unnamed := by simp [he]
  constructor
  · intro met other ho
    rw [hr] at ho
    cases ho
    exact (met_congr he).2 met
  · exact fun holds => (met_congr he).1 (holds result' hr)

theorem compileTerms_met_iff {terms : List FilterTerm} {result : List Condition × Nat}
    (h : compileTerms plan space number terms = .ok result) :
    Met joined result.1 ↔ ∀ term ∈ terms, term.Holds plan joined := by
  induction terms generalizing number result with
  | nil =>
    cases h
    simp [Met]
  | cons term terms ih =>
    simp only [compileTerms, bind_eq_ok_iff, pure_eq] at h
    obtain ⟨first, hf, rest, hr, he⟩ := h
    cases he
    rw [met_append, met_term_iff hf, ih hr, List.forall_mem_cons]

theorem compileField_met_iff {path : String} {terms : List FilterTerm}
    {result : List Condition × Nat} (h : compileField plan space number path terms = .ok result) :
    Met joined result.1 ↔ FieldHolds plan joined path terms := by
  cases range : rangeOf? terms with
  | none =>
    simp only [compileField, range] at h
    simp only [FieldHolds, range]
    exact compileTerms_met_iff h
  | some ends =>
    obtain ⟨low, high⟩ := ends
    simp only [compileField, range, bind_eq_ok_iff, pure_eq] at h
    simp only [FieldHolds, range]
    obtain ⟨first, hr, rest, ht, he⟩ := h
    cases he
    rw [← List.singleton_append, met_append, met_range_iff hr, compileTerms_met_iff ht]
    simp

theorem compileFields_met_iff {fields : List (String × List FilterTerm)}
    {result : List Condition × Nat} (h : compileFields plan space number fields = .ok result) :
    Met joined result.1 ↔ ∀ field ∈ fields, FieldHolds plan joined field.1 field.2 := by
  induction fields generalizing number result with
  | nil =>
    cases h
    simp [Met]
  | cons field fields ih =>
    simp only [compileFields, bind_eq_ok_iff, pure_eq] at h
    obtain ⟨first, hf, rest, hr, he⟩ := h
    cases he
    rw [met_append, compileField_met_iff hf, ih hr, List.forall_mem_cons]

theorem compileFilters_met_iff {terms : List FilterTerm} {conditions : List Condition}
    (h : compileFilters plan space terms = .ok conditions) :
    Met joined conditions ↔
      ∀ path, FieldHolds plan joined path (terms.filter (·.field = path)) := by
  rw [compileFilters, map_eq_ok_iff] at h
  obtain ⟨result, hr, rfl⟩ := h
  rw [compileFields_met_iff hr]
  simp only [byField, List.mem_map, List.mem_eraseDups]
  constructor
  · intro fields path
    by_cases hp : ∃ term ∈ terms, term.field = path
    · exact fields _ ⟨path, hp, rfl⟩
    · have none : terms.filter (·.field = path) = [] := by
        simpa using hp
      rw [none]
      exact fun _ ht => absurd ht List.not_mem_nil
  · rintro fields _ ⟨path, -, rfl⟩
    exact fields path

theorem compileFields_compiles {fields : List (String × List FilterTerm)}
    {result : List Condition × Nat} (h : compileFields plan space number fields = .ok result) :
    ∀ field ∈ fields, ∃ number result,
      compileField plan space number field.1 field.2 = .ok result := by
  induction fields generalizing number result with
  | nil => simp
  | cons field fields ih =>
    simp only [compileFields, bind_eq_ok_iff] at h
    obtain ⟨first, hf, rest, hr, -⟩ := h
    exact List.forall_mem_cons.2 ⟨⟨number, first, hf⟩, ih hr⟩

theorem compileFilters_compiles {terms : List FilterTerm} {conditions : List Condition}
    (h : compileFilters plan space terms = .ok conditions) {term : FilterTerm} (hm : term ∈ terms) :
    ∃ number result,
      compileField plan space number term.field (terms.filter (·.field = term.field)) =
        .ok result := by
  rw [compileFilters, map_eq_ok_iff] at h
  obtain ⟨result, hr, -⟩ := h
  refine compileFields_compiles hr (term.field, terms.filter (·.field = term.field)) ?_
  simp only [byField, List.mem_map, List.mem_eraseDups]
  exact ⟨term.field, ⟨term, hm, rfl⟩, rfl⟩

end

end RecordListing
