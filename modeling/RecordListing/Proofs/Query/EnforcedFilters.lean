import RecordListing.Schema.Sample
import RecordListing.Proofs.Query.Enforcement

/-!
# Filters are enforced

Conditions are compiled for filters exactly if every field resolves and every demand of a field can
be enforced, and then they enforce the demands one by one, in their order (`filters_enforced`).
-/

set_option autoImplicit false

namespace RecordListing

open Outcome

/-! ## Fields -/

section
variable {plan : JoinPlan} {lower upper : FilterTerm} {field : Field} {column : ColumnRef}

theorem dayRange_realizes (found : plan.resolve lower.field = .ok (field, column))
    (days : (lower.value.isDateOnly && upper.value.isDateOnly) = true) (number : Nat)
    (lowName highName : String) :
    Realizes plan [lower.field] [.range lower upper] (do
      let first ← readDay lower.value.dayText
      let last ← readDay upper.value.dayText
      return ([.test (.dayBetween column ⟨lowName, .date first, .date⟩
        ⟨highName, .date last, .date⟩)], number + 2)) := by
  have readable {condition : Condition}
      (h : RecordListing.Enforces field column (.range lower upper) condition) :
      (∃ first, readDay lower.value.dayText = .ok first) ∧
        ∃ last, readDay upper.value.dayText = .ok last := by
    rcases h.range_cases with ⟨-, read⟩ | ⟨part, -⟩
    · exact read
    · rw [days] at part
      cases part
  cases first_day : readDay lower.value.dayText with
  | error failure =>
    refine .failed (.range lower upper) found (fun condition h => ?_) _
    obtain ⟨⟨first, ok⟩, -⟩ := readable h
    rw [first_day] at ok
    cases ok
  | ok first =>
    cases last_day : readDay upper.value.dayText with
    | error failure =>
      refine .failed (.range lower upper) found (fun condition h => ?_) _
      obtain ⟨-, last, ok⟩ := readable h
      rw [last_day] at ok
      cases ok
    | ok last => exact .enforced (.range lower upper) found (.dayRange days first_day last_day) _

theorem bounded_realizes (found : plan.resolve lower.field = .ok (field, column))
    (part : (lower.value.isDateOnly && upper.value.isDateOnly) = false) (number : Nat)
    (lowName highName : String) :
    Realizes plan [lower.field] [.range lower upper]
      ((compileRange.bounded number lower.field lower.value upper.value field column lowName
        highName).map fun result => ([result.1], result.2)) := by
  have coercible {condition : Condition}
      (h : RecordListing.Enforces field column (.range lower upper) condition) :
      (∃ low, field.column.coerce lower.field lower.value = .ok low) ∧
        ∃ high, field.column.coerce lower.field upper.value = .ok high := by
    rcases h.range_cases with ⟨days, -⟩ | ⟨-, coerced⟩
    · rw [part] at days
      cases days
    · exact coerced
  unfold compileRange.bounded
  cases low_coerced : field.column.coerce lower.field lower.value with
  | error reason =>
    refine .failed (.range lower upper) found (fun condition h => ?_) _
    obtain ⟨⟨low, ok⟩, -⟩ := coercible h
    rw [low_coerced] at ok
    cases ok
  | ok low =>
    cases high_coerced : field.column.coerce lower.field upper.value with
    | error reason =>
      refine .failed (.range lower upper) found (fun condition h => ?_) _
      obtain ⟨-, high, ok⟩ := coercible h
      rw [high_coerced] at ok
      cases ok
    | ok high =>
      exact .enforced (.range lower upper) found (.range part low_coerced high_coerced) _

theorem compileRange_realizes (plan : JoinPlan) (space : String) (number : Nat)
    (lower upper : FilterTerm) :
    Realizes plan [lower.field] [.range lower upper]
      ((compileRange plan space number lower.field lower.value upper.value).map
        fun result => ([result.1], result.2)) := by
  rw [compileRange_eq]
  cases found : plan.resolve lower.field with
  | error reason => exact .refused reason found _
  | ok target =>
    obtain ⟨field, column⟩ := target
    dsimp only
    cases days : lower.value.isDateOnly && upper.value.isDateOnly with
    | true =>
      have whole := dayRange_realizes found days number
        (bindName space number lower.field "_from") (bindName space (number + 1) lower.field "_to")
      rw [if_pos rfl]
      cases first_day : readDay lower.value.dayText with
      | error failure => rwa [first_day] at whole
      | ok first =>
        rw [first_day] at whole
        cases last_day : readDay upper.value.dayText <;> rwa [last_day] at whole
    | false => exact bounded_realizes found days _ _ _

end

/-- The last term with the operator of a bound is the only one. -/
theorem find?_isEnd {terms : List FilterTerm} {path : String} (once : BoundsOnce terms)
    (fields : ∀ term ∈ terms, term.field = path) {operator : Operator}
    (bound : operator.isBound = true) :
    terms.find? (FilterTerm.isEnd operator) =
      (terms.reverse.find? (·.operator = operator)).filter (!·.value.isBlank) := by
  cases last : terms.reverse.find? (·.operator = operator) with
  | none =>
    rw [List.find?_eq_none] at last
    rw [Option.filter_none, List.find?_eq_none]
    intro term hm ended
    have op := (FilterTerm.isEnd_iff.1 ended).1
    exact last term (List.mem_reverse.2 hm) (by simp [op])
  | some term =>
    have op : term.operator = operator := by simpa using List.find?_some last
    have mem_term : term ∈ terms := List.mem_reverse.1 (List.mem_of_find?_eq_some last)
    -- where the last one is blank, no earlier one stands in for it
    have only (other : FilterTerm) (ho : other ∈ terms) (ended : other.isEnd operator = true) :
        other = term := by
      have same := (FilterTerm.isEnd_iff.1 ended).1
      exact once.eq ho mem_term ((fields other ho).trans (fields term mem_term).symm)
        (same.trans op.symm) (same ▸ bound)
    cases found : terms.find? (FilterTerm.isEnd operator) with
    | none =>
      have blank := (List.find?_eq_none.1 found) term mem_term
      rw [FilterTerm.isEnd_iff, not_and, Bool.not_eq_false] at blank
      simp [Option.filter_some, blank op]
    | some other =>
      have ended := List.find?_some found
      obtain rfl := only other (List.mem_of_find?_eq_some found) ended
      simp [Option.filter_some, (FilterTerm.isEnd_iff.1 ended).2]

/-- The range of a field is the one between its ends. -/
theorem rangeOf?_eq {terms : List FilterTerm} {path : String} (once : BoundsOnce terms)
    (fields : ∀ term ∈ terms, term.field = path) :
    rangeOf? terms = (boundsOf? terms).map fun ends => (ends.1.value, ends.2.value) := by
  rw [rangeOf?, boundsOf?, find?_isEnd once fields rfl, find?_isEnd once fields rfl, valueUnder?,
    valueUnder?]
  cases terms.reverse.find? (·.operator = .gte) with
  | none => rfl
  | some lower =>
    cases terms.reverse.find? (·.operator = .lte) with
    | none => cases low : lower.value.isBlank <;> simp [Option.filter_some, low]
    | some upper =>
      cases low : lower.value.isBlank <;> cases high : upper.value.isBlank <;>
        simp [Option.filter_some, low, high]

theorem compileField_realizes (plan : JoinPlan) (space : String) (number : Nat) (path : String)
    {terms : List FilterTerm} (once : BoundsOnce terms)
    (fields : ∀ term ∈ terms, term.field = path) :
    Realizes plan (terms.map (·.field)) (fieldDemands terms)
      (compileField plan space number path terms) := by
  unfold compileField fieldDemands
  rw [rangeOf?_eq once fields]
  cases bounds : boundsOf? terms with
  | none => exact compileTerms_realizes plan space number terms
  | some ends =>
    obtain ⟨lower, upper⟩ := ends
    obtain ⟨⟨mem_lower, -⟩, -⟩ := boundsOf?_eq_some bounds
    obtain rfl := fields lower mem_lower
    have both := (compileRange_realizes plan space number lower upper).append fun next =>
      compileTerms_realizes plan space next (terms.filter fun term => !term.operator.isBound)
    rw [List.filter_filter] at both
    have same (path : String) : path ∈ [lower.field] ++
        (terms.filter fun term => !term.operator.isBound).map (·.field) ↔
          path ∈ terms.map (·.field) := by
      constructor
      · intro hp
        rcases List.mem_append.1 hp with hp | hp
        · rw [List.mem_singleton.1 hp]
          exact List.mem_map_of_mem mem_lower
        · obtain ⟨term, hm, rfl⟩ := List.mem_map.1 hp
          exact List.mem_map_of_mem (List.mem_of_mem_filter hm)
      · intro hp
        obtain ⟨term, hm, rfl⟩ := List.mem_map.1 hp
        exact List.mem_append_left _ (List.mem_singleton.2 (fields term hm))
    have compiled := both.of_paths same
    dsimp only [Option.map_some]
    cases first : compileRange plan space number lower.field lower.value upper.value with
    | error failure => rwa [first] at compiled
    | ok result => rwa [first] at compiled

theorem compileFields_realizes (plan : JoinPlan) (space : String) (number : Nat)
    {fields : List (String × List FilterTerm)} (once : ∀ field ∈ fields, BoundsOnce field.2)
    (own : ∀ field ∈ fields, ∀ term ∈ field.2, term.field = field.1) :
    Realizes plan (fields.flatMap fun field => field.2.map (·.field))
      (fields.flatMap fun field => fieldDemands field.2)
      (compileFields plan space number fields) := by
  induction fields generalizing number with
  | nil => exact .nil number
  | cons field fields ih =>
    obtain ⟨once_first, once_rest⟩ := List.forall_mem_cons.1 once
    obtain ⟨own_first, own_rest⟩ := List.forall_mem_cons.1 own
    exact (compileField_realizes plan space number field.1 once_first own_first).append
      fun next => ih next once_rest own_rest

/-! ## Filters -/

theorem compileFilters_realizes (plan : JoinPlan) (space : String) {terms : List FilterTerm}
    (once : BoundsOnce terms) :
    Realizes plan (terms.map (·.field)) (demandsOf terms)
      (compileFields plan space 0 (byField terms)) := by
  have each : ∀ field ∈ byField terms, BoundsOnce field.2 := by
    intro field hf
    obtain ⟨path, -, rfl⟩ := List.mem_map.1 hf
    exact List.Pairwise.filter _ once
  have own : ∀ field ∈ byField terms, ∀ term ∈ field.2, term.field = field.1 := by
    intro field hf term hm
    obtain ⟨path, -, rfl⟩ := List.mem_map.1 hf
    exact of_decide_eq_true (List.mem_filter.1 hm).2
  have all := compileFields_realizes plan space 0 each own
  rw [byField, List.flatMap_map, List.flatMap_map] at all
  refine all.of_paths fun path => ?_
  simp only [List.mem_flatMap, List.mem_eraseDups, List.mem_map, List.mem_filter,
    decide_eq_true_eq]
  constructor
  · rintro ⟨_, -, term, ⟨hm, -⟩, rfl⟩
    exact ⟨term, hm, rfl⟩
  · rintro ⟨term, hm, rfl⟩
    exact ⟨term.field, ⟨term, hm, rfl⟩, term, ⟨hm, rfl⟩, rfl⟩

/-- Conditions are compiled for filters exactly if every field resolves and every demand can be
enforced; they enforce the demands one by one; and each entry that is neither blocked nor skipped is
part of exactly one demand. No field has two lower bounds or two upper ones. -/
theorem filters_enforced (plan : JoinPlan) (space : String) (sentinel : Option String)
    (filters : List (String × Value)) :
    let terms := parseFilters sentinel filters
    ((∃ conditions, compileFilters plan space terms = .ok conditions) ↔
      (∀ term ∈ terms, plan.Resolves term.field) ∧
        ∀ demand ∈ demandsOf terms, ∃ condition, plan.Enforces demand condition) ∧
    (∀ conditions, compileFilters plan space terms = .ok conditions →
      List.Forall₂ plan.Enforces (demandsOf terms) conditions) ∧
    ((demandsOf terms).flatMap Demand.terms).Perm
      (((flattenFilters filters).map fun entry => .ofEntry sentinel entry.1 entry.2).filter
        fun term => !isBlockedField term.field && !term.isSkipped) ∧
    BoundsOnce terms := by
  intro terms
  have once : BoundsOnce terms := boundsOnce_parseFilters sentinel filters
  have all := compileFilters_realizes plan space once
  have enforced : ∀ conditions, compileFilters plan space terms = .ok conditions →
      List.Forall₂ plan.Enforces (demandsOf terms) conditions := by
    intro conditions h
    obtain ⟨result, hr, rfl⟩ := map_eq_ok_iff.1 h
    exact all.enforces result hr
  refine ⟨⟨?_, ?_⟩, enforced, ?_, once⟩
  · rintro ⟨conditions, h⟩
    obtain ⟨result, hr, -⟩ := map_eq_ok_iff.1 h
    refine ⟨fun term hm => all.resolves result hr _ (List.mem_map_of_mem hm), ?_⟩
    have each := (enforced conditions h).imp fun demand condition he =>
      And.intro (Exists.intro condition he) he
    exact ((List.forall₂_and_left _ _).1 each).1
  · rintro ⟨found, enforceable⟩
    obtain ⟨result, hr⟩ := all.succeeds (List.forall_mem_map.2 found) enforceable
    exact ⟨result.1, map_eq_ok_iff.2 ⟨result, hr, rfl⟩⟩
  · have perm := demandsOf_perm once
    have same : terms.filter (!·.isSkipped) =
        ((flattenFilters filters).map fun entry => .ofEntry sentinel entry.1 entry.2).filter
          fun term => !isBlockedField term.field && !term.isSkipped := by
      show (parseFilters sentinel filters).filter _ = _
      rw [parseFilters, List.filter_filter]
      simp only [Bool.and_comm]
    rwa [same] at perm

/-- Two bounds, a sentinel and a pattern give three conditions for widgets, and a blocked field and
an empty text give none. -/
theorem filters_enforced_widgets :
    let plan : JoinPlan := ⟨Sample.registry, Sample.widget, []⟩
    let filters := [("name", .text ""), ("serial", .map [("gte", .int 1), ("ne", .text "null"),
      ("lte", .int 9), ("__proto__", .int 0)]), ("name.like", .text "a")]
    ∃ conditions, compileFilters plan "" (parseFilters (some "null") filters) = .ok conditions ∧
      List.Forall₂ plan.Enforces [.single ⟨"name", .like, .text "a"⟩,
        .range ⟨"serial", .gte, .int 1⟩ ⟨"serial", .lte, .int 9⟩,
        .single ⟨"serial", .isNull, .bool false⟩] conditions := by
  intro plan filters
  obtain ⟨conditions, compiled, -⟩ := @exists_ok_of_any _ _
    (compileFilters plan "" (parseFilters (some "null") filters)) (fun _ => true)
    (by decide +kernel)
  obtain ⟨-, enforced, -⟩ := filters_enforced plan "" (some "null") filters
  exact ⟨conditions, compiled, enforced conditions compiled⟩

end RecordListing
