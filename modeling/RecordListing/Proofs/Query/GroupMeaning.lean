import RecordListing.Proofs.Query.FilterMeaning

/-!
# What groups of filters ask for

A group asks for the same wherever it stands, but for the names of its parameters
(`compileFilters_anywhere`), and a group that asks for nothing leaves no trace
(`compileOrFilters_without`). The condition of several groups is met where one of those that ask for
something holds, if there is such a group at all (`compileOrFilters_met_iff`).
-/

set_option autoImplicit false

namespace RecordListing

open Outcome

section
variable {plan : JoinPlan} {space : String} {number : Nat}

/-! ## Filters elsewhere -/

theorem compileTerms_anywhere {terms : List FilterTerm} {result : List Condition × Nat}
    (h : compileTerms plan space number terms = .ok result) (other : String) (next : Nat) :
    ∃ result', compileTerms plan other next terms = .ok result' ∧
      result'.1.map Condition.unnamed = result.1.map Condition.unnamed := by
  induction terms generalizing number next result with
  | nil =>
    cases h
    exact ⟨_, rfl, rfl⟩
  | cons term terms ih =>
    simp only [compileTerms, bind_eq_ok_iff, pure_eq, Except.ok.injEq] at h
    obtain ⟨first, hf, rest, hr, rfl⟩ := h
    obtain ⟨first', hf', first_same⟩ := compileTerm_anywhere hf other next
    obtain ⟨rest', hr', rest_same⟩ := ih hr first'.2
    refine ⟨(first'.1.toList ++ rest'.1, rest'.2), ?_, ?_⟩
    · simp only [compileTerms, hf', hr', ok_bind, pure_eq]
    · rw [List.map_append, first_same, rest_same, List.map_append]

theorem compileField_anywhere {path : String} {terms : List FilterTerm}
    {result : List Condition × Nat} (h : compileField plan space number path terms = .ok result)
    (other : String) (next : Nat) :
    ∃ result', compileField plan other next path terms = .ok result' ∧
      result'.1.map Condition.unnamed = result.1.map Condition.unnamed := by
  cases range : rangeOf? terms with
  | none =>
    simp only [compileField, range] at h ⊢
    exact compileTerms_anywhere h other next
  | some ends =>
    obtain ⟨low, high⟩ := ends
    simp only [compileField, range, bind_eq_ok_iff, pure_eq, Except.ok.injEq] at h
    obtain ⟨first, hf, rest, hr, rfl⟩ := h
    obtain ⟨first', hf', first_same⟩ := compileRange_anywhere hf other next
    obtain ⟨rest', hr', rest_same⟩ := compileTerms_anywhere hr other first'.2
    refine ⟨(first'.1 :: rest'.1, rest'.2), ?_, ?_⟩
    · simp only [compileField, range, hf', hr', ok_bind, pure_eq]
    · rw [List.map_cons, first_same, rest_same, List.map_cons]

theorem compileFields_anywhere {fields : List (String × List FilterTerm)}
    {result : List Condition × Nat} (h : compileFields plan space number fields = .ok result)
    (other : String) (next : Nat) :
    ∃ result', compileFields plan other next fields = .ok result' ∧
      result'.1.map Condition.unnamed = result.1.map Condition.unnamed := by
  induction fields generalizing number next result with
  | nil =>
    cases h
    exact ⟨_, rfl, rfl⟩
  | cons field fields ih =>
    simp only [compileFields, bind_eq_ok_iff, pure_eq, Except.ok.injEq] at h
    obtain ⟨first, hf, rest, hr, rfl⟩ := h
    obtain ⟨first', hf', first_same⟩ := compileField_anywhere hf other next
    obtain ⟨rest', hr', rest_same⟩ := ih hr first'.2
    refine ⟨(first'.1 ++ rest'.1, rest'.2), ?_, ?_⟩
    · simp only [compileFields, hf', hr', ok_bind, pure_eq]
    · rw [List.map_append, first_same, rest_same, List.map_append]

/-- Filters ask for the same in every namespace. -/
theorem compileFilters_anywhere {terms : List FilterTerm} {conditions : List Condition}
    (h : compileFilters plan space terms = .ok conditions) (other : String) :
    ∃ conditions', compileFilters plan other terms = .ok conditions' ∧
      conditions'.map Condition.unnamed = conditions.map Condition.unnamed := by
  rw [compileFilters, map_eq_ok_iff] at h
  obtain ⟨result, hr, rfl⟩ := h
  obtain ⟨result', hr', same⟩ := compileFields_anywhere hr other 0
  exact ⟨result'.1, by rw [compileFilters, hr', map_ok], same⟩

end

/-! ## Brackets -/

theorem Condition.unnamed_allOf (first : Condition) (rest : List Condition) :
    (allOf first rest).unnamed = allOf first.unnamed (rest.map unnamed) := by
  induction rest generalizing first with
  | nil => rfl
  | cons next rest ih =>
    simp only [allOf, unnamed, ih]
    rfl

theorem Condition.unnamed_anyOf (first : Condition) (rest : List Condition) :
    (anyOf first rest).unnamed = anyOf first.unnamed (rest.map unnamed) := by
  induction rest generalizing first with
  | nil => rfl
  | cons next rest ih =>
    simp only [anyOf, unnamed, ih]
    rfl

/-- The condition that a group gives, if its filters give any. -/
def groupCondition : List Condition → List Condition
  | [] => []
  | first :: rest => [.allOf first rest]

theorem map_unnamed_groupCondition (conditions : List Condition) :
    (groupCondition conditions).map Condition.unnamed =
      groupCondition (conditions.map Condition.unnamed) := by
  cases conditions with
  | nil => rfl
  | cons first rest => simp [groupCondition, Condition.unnamed_allOf]

theorem groupCondition_yes_iff {conditions : List Condition} {joined : JoinedRow} :
    (∃ condition ∈ groupCondition conditions, condition.truth joined = .yes) ↔
      conditions ≠ [] ∧ Met joined conditions := by
  cases conditions with
  | nil => simp [groupCondition]
  | cons first rest => simp [groupCondition, Condition.truth_allOf]

theorem compileGroups_cons_iff {plan : JoinPlan} {index : Nat} {group : List FilterTerm}
    {groups : List (List FilterTerm)} {conditions : List Condition} :
    compileGroups plan index (group :: groups) = .ok conditions ↔
      ∃ own others, compileFilters plan (groupSpace index) group = .ok own ∧
        compileGroups plan (index + 1) groups = .ok others ∧
        conditions = groupCondition own ++ others := by
  simp only [compileGroups, bind_eq_ok_iff]
  constructor
  · rintro ⟨own, ho, others, hr, h⟩
    refine ⟨own, others, ho, hr, ?_⟩
    cases own <;> cases h <;> rfl
  · rintro ⟨own, others, ho, hr, rfl⟩
    refine ⟨own, ho, others, hr, ?_⟩
    cases own <;> rfl

/-! ## Groups -/

section
variable (plan : JoinPlan)

/-- Whether a group asks for nothing. -/
def AsksNothing (group : List FilterTerm) : Prop := compileFilters plan "" group = .ok []

/-- Whether a group asks for something that is true of a joined row. -/
def GroupHolds (joined : JoinedRow) (group : List FilterTerm) : Prop :=
  ¬ AsksNothing plan group ∧
    ∀ path, FieldHolds plan joined path (group.filter (·.field = path))

/-- Whether one of the groups that ask for something holds, if there is such a group. -/
def GroupsHold (joined : JoinedRow) (groups : List (List FilterTerm)) : Prop :=
  (∀ group ∈ groups, AsksNothing plan group) ∨ ∃ group ∈ groups, GroupHolds plan joined group

end

section
variable {plan : JoinPlan} {joined : JoinedRow} {index : Nat} {group : List FilterTerm}
    {groups : List (List FilterTerm)} {conditions : List Condition}

theorem compileFilters_nil_iff {space : String}
    (h : compileFilters plan space group = .ok conditions) :
    conditions = [] ↔ AsksNothing plan group := by
  obtain ⟨conditions', h', same⟩ := compileFilters_anywhere h ""
  rw [AsksNothing, h', Except.ok.injEq, ← List.map_eq_nil_iff (f := Condition.unnamed), ← same,
    List.map_eq_nil_iff]

theorem compileGroups_anywhere (h : compileGroups plan index groups = .ok conditions)
    (other : Nat) :
    ∃ conditions', compileGroups plan other groups = .ok conditions' ∧
      conditions'.map Condition.unnamed = conditions.map Condition.unnamed := by
  induction groups generalizing index other conditions with
  | nil =>
    cases h
    exact ⟨_, rfl, rfl⟩
  | cons group groups ih =>
    obtain ⟨own, others, ho, hr, rfl⟩ := compileGroups_cons_iff.1 h
    obtain ⟨own', ho', own_same⟩ := compileFilters_anywhere ho (groupSpace other)
    obtain ⟨others', hr', others_same⟩ := ih hr (other + 1)
    refine ⟨_, compileGroups_cons_iff.2 ⟨own', others', ho', hr', rfl⟩, ?_⟩
    simp only [List.map_append, map_unnamed_groupCondition, own_same, others_same]

/-- Groups can be compiled if each of them can. -/
theorem compileGroups_isOk_iff :
    (∃ conditions, compileGroups plan index groups = .ok conditions) ↔
      ∀ group ∈ groups, ∃ own, compileFilters plan "" group = .ok own := by
  induction groups generalizing index with
  | nil => exact iff_of_true ⟨[], rfl⟩ fun _ h => nomatch h
  | cons group groups ih =>
    rw [List.forall_mem_cons, ← @ih (index + 1)]
    constructor
    · rintro ⟨conditions, h⟩
      obtain ⟨own, others, ho, hr, -⟩ := compileGroups_cons_iff.1 h
      obtain ⟨own', ho', -⟩ := compileFilters_anywhere ho ""
      exact ⟨⟨own', ho'⟩, others, hr⟩
    · rintro ⟨⟨own, ho⟩, others, hr⟩
      obtain ⟨own', ho', -⟩ := compileFilters_anywhere ho (groupSpace index)
      exact ⟨_, compileGroups_cons_iff.2 ⟨own', others, ho', hr, rfl⟩⟩

theorem compileGroups_yes_iff (h : compileGroups plan index groups = .ok conditions) :
    (∃ condition ∈ conditions, condition.truth joined = .yes) ↔
      ∃ group ∈ groups, GroupHolds plan joined group := by
  induction groups generalizing index conditions with
  | nil =>
    cases h
    simp
  | cons group groups ih =>
    obtain ⟨own, others, ho, hr, rfl⟩ := compileGroups_cons_iff.1 h
    have first_holds : own ≠ [] ∧ Met joined own ↔ GroupHolds plan joined group := by
      unfold GroupHolds
      rw [← compileFilters_nil_iff ho, compileFilters_met_iff ho]
    simp only [List.mem_append, or_and_right, exists_or]
    rw [ih hr, groupCondition_yes_iff, first_holds]
    simp only [List.mem_cons, exists_eq_or_imp]

theorem compileGroups_nil_iff (h : compileGroups plan index groups = .ok conditions) :
    conditions = [] ↔ ∀ group ∈ groups, AsksNothing plan group := by
  induction groups generalizing index conditions with
  | nil =>
    cases h
    simp
  | cons group groups ih =>
    obtain ⟨own, others, ho, hr, rfl⟩ := compileGroups_cons_iff.1 h
    rw [List.append_eq_nil_iff, ih hr, List.forall_mem_cons, ← compileFilters_nil_iff ho]
    cases own <;> simp [groupCondition]

/-- A group that asks for nothing leaves no trace but in the names of parameters. -/
theorem compileGroups_without {before after : List (List FilterTerm)}
    (nothing : AsksNothing plan group)
    (h : compileGroups plan index (before ++ group :: after) = .ok conditions) (other : Nat) :
    ∃ conditions', compileGroups plan other (before ++ after) = .ok conditions' ∧
      conditions'.map Condition.unnamed = conditions.map Condition.unnamed := by
  induction before generalizing index other conditions with
  | nil =>
    obtain ⟨own, others, ho, hr, rfl⟩ := compileGroups_cons_iff.1 h
    rw [(compileFilters_nil_iff ho).2 nothing]
    exact compileGroups_anywhere hr other
  | cons first before ih =>
    obtain ⟨own, others, ho, hr, rfl⟩ := compileGroups_cons_iff.1 h
    obtain ⟨own', ho', own_same⟩ := compileFilters_anywhere ho (groupSpace other)
    obtain ⟨others', hr', others_same⟩ := ih hr (other + 1)
    refine ⟨_, compileGroups_cons_iff.2 ⟨own', others', ho', hr', rfl⟩, ?_⟩
    simp only [List.map_append, map_unnamed_groupCondition, own_same, others_same]

/-! ### The bracket of all groups -/

theorem compileOrFilters_eq_ok_iff {bracket : Option Condition} :
    compileOrFilters plan groups = .ok bracket ↔
      ∃ conditions, compileGroups plan 0 groups = .ok conditions ∧
        bracket = match conditions with
          | [] => none
          | first :: rest => some (.anyOf first rest) := by
  simp only [compileOrFilters, bind_eq_ok_iff]
  refine exists_congr fun conditions => and_congr_right fun _ => ?_
  cases conditions <;> simp [eq_comm]

/-- The condition of groups is met where one of them holds, or if none of them asks for anything. -/
theorem compileOrFilters_met_iff {bracket : Option Condition}
    (h : compileOrFilters plan groups = .ok bracket) :
    Met joined bracket.toList ↔ GroupsHold plan joined groups := by
  obtain ⟨conditions, hc, rfl⟩ := compileOrFilters_eq_ok_iff.1 h
  rw [GroupsHold, ← compileGroups_nil_iff hc, ← compileGroups_yes_iff hc]
  cases conditions with
  | nil => simp [Met]
  | cons first rest => simp [met_singleton, Condition.truth_anyOf]

theorem compileOrFilters_without {before after : List (List FilterTerm)}
    {bracket : Option Condition} (nothing : AsksNothing plan group)
    (h : compileOrFilters plan (before ++ group :: after) = .ok bracket) :
    ∃ bracket', compileOrFilters plan (before ++ after) = .ok bracket' ∧
      bracket'.map Condition.unnamed = bracket.map Condition.unnamed := by
  obtain ⟨conditions, hc, rfl⟩ := compileOrFilters_eq_ok_iff.1 h
  obtain ⟨conditions', hc', same⟩ := compileGroups_without nothing hc 0
  refine ⟨_, compileOrFilters_eq_ok_iff.2 ⟨conditions', hc', rfl⟩, ?_⟩
  cases conditions with
  | nil =>
    obtain rfl := List.map_eq_nil_iff.1 same
    rfl
  | cons first rest =>
    cases conditions' with
    | nil => cases same
    | cons first' rest' =>
      obtain ⟨first_same, rest_same⟩ := List.cons.inj same
      simp only [Option.map_some, Condition.unnamed_anyOf, first_same, rest_same]

end

end RecordListing
