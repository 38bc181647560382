import Mathlib.Data.List.Perm.Basic
import RecordListing.Proofs.Query.FilterKeys
import RecordListing.Proofs.Query.ValueShape

/-!
# What filters demand

The terms of a filter map demand one thing each, except that the two bounds of a field demand one
range together, and some terms demand nothing (`demandsOf`). Every term that demands something is
part of exactly one demand (`demandsOf_perm`), since no field has two bounds of a kind.
-/

set_option autoImplicit false

namespace RecordListing

/-- What one condition is to enforce: what a term asks for, or that a column lies between the values
of two. -/
inductive Demand
  | single (term : FilterTerm)
  | range (lower upper : FilterTerm)

/-- The terms that a demand is made of. -/
def Demand.terms : Demand → List FilterTerm
  | .single term => [term]
  | .range lower upper => [lower, upper]

namespace FilterTerm

/-- Whether a term asks for nothing. An absent value can only be asked for as such, an empty text is
not looked for, and an empty list tells nothing apart. -/
def isSkipped (term : FilterTerm) : Bool :=
  match term.operator with
  | .isNull => false
  | .eq => term.value.isBlank || term.value.length? = some 0
  | .ne => term.value.isNull || term.value.length? = some 0
  | _ => term.value.isNull

/-- Whether a term is one of the bounds of a range. -/
def isEnd (operator : Operator) (term : FilterTerm) : Bool :=
  decide (term.operator = operator) && !term.value.isBlank

end FilterTerm

/-- The bounds of a field that has a lower and an upper one. -/
def boundsOf? (terms : List FilterTerm) : Option (FilterTerm × FilterTerm) :=
  match terms.find? (FilterTerm.isEnd .gte), terms.find? (FilterTerm.isEnd .lte) with
  | some lower, some upper => some (lower, upper)
  | _, _ => none

/-- What the terms of one field demand: its range if it has one, then each other thing, in order. -/
def fieldDemands (terms : List FilterTerm) : List Demand :=
  match boundsOf? terms with
  | some (lower, upper) =>
    .range lower upper ::
      (terms.filter fun term => !term.isSkipped && !term.operator.isBound).map .single
  | none => (terms.filter fun term => !term.isSkipped).map .single

/-- What terms demand, field by field in the order of their first terms. -/
def demandsOf (terms : List FilterTerm) : List Demand :=
  (terms.map (·.field)).eraseDups.flatMap fun path => fieldDemands (terms.filter (·.field = path))

/-! ## The bounds of a field -/

section
variable {terms : List FilterTerm} {lower upper term : FilterTerm} {path : String}

theorem FilterTerm.isEnd_iff {operator : Operator} :
    term.isEnd operator = true ↔ term.operator = operator ∧ term.value.isBlank = false := by
  simp [isEnd]

theorem Operator.isBound_iff {operator : Operator} :
    operator.isBound = true ↔ operator = .gte ∨ operator = .lte := by
  simp [isBound]

/-- An absent value is only asked for as such. -/
theorem FilterTerm.isSkipped_absent (op : term.operator ≠ .isNull)
    (absent : term.value.isNull = true) : term.isSkipped = true := by
  unfold isSkipped
  cases operator : term.operator <;> simp_all [Value.isBlank]

theorem FilterTerm.present_of_asks (asks : term.isSkipped = false)
    (op : term.operator ∈ [.eq, .ne, .gt, .gte, .lt, .lte]) : term.value.isNull = false := by
  have named : term.operator ≠ .isNull := by
    rintro h
    rw [h] at op
    exact absurd op (by decide)
  cases absent : term.value.isNull with
  | true =>
    rw [isSkipped_absent named absent] at asks
    cases asks
  | false => rfl

/-- Patterns and bounds are only skipped for an absent value. -/
theorem FilterTerm.isSkipped_other (op : term.operator ∈ [.like, .ilike, .gt, .gte, .lt, .lte]) :
    term.isSkipped = term.value.isNull := by
  unfold isSkipped
  cases operator : term.operator <;> simp_all

/-- An end of a range asks for something. -/
theorem FilterTerm.not_skipped_of_end {operator : Operator} (h : term.isEnd operator = true)
    (bound : operator.isBound = true) : term.isSkipped = false := by
  obtain ⟨rfl, filled⟩ := isEnd_iff.1 h
  have present : term.value.isNull = false := (Bool.or_eq_false_iff.1 filled).1
  rw [isSkipped_other, present]
  rcases Operator.isBound_iff.1 bound with op | op <;> simp [op]

theorem boundsOf?_eq_some (h : boundsOf? terms = some (lower, upper)) :
    (lower ∈ terms ∧ lower.isEnd .gte = true) ∧ upper ∈ terms ∧ upper.isEnd .lte = true := by
  unfold boundsOf? at h
  split at h
  · rename_i first last hf hl
    cases h
    exact ⟨⟨List.mem_of_find?_eq_some hf, List.find?_some hf⟩, List.mem_of_find?_eq_some hl,
      List.find?_some hl⟩
  · cases h

/-- The two ends are all the bounds of a field that has a range. -/
theorem eq_end_of_bound (once : BoundsOnce terms) (fields : ∀ term ∈ terms, term.field = path)
    (h : boundsOf? terms = some (lower, upper)) (hm : term ∈ terms)
    (bound : term.operator.isBound = true) : term = lower ∨ term = upper := by
  obtain ⟨⟨mem_lower, lower_end⟩, mem_upper, upper_end⟩ := boundsOf?_eq_some h
  have field (other : FilterTerm) (ho : other ∈ terms) : term.field = other.field :=
    (fields term hm).trans (fields other ho).symm
  rcases Operator.isBound_iff.1 bound with op | op
  · have same := op.trans (FilterTerm.isEnd_iff.1 lower_end).1.symm
    exact .inl (once.eq hm mem_lower (field lower mem_lower) same bound)
  · have same := op.trans (FilterTerm.isEnd_iff.1 upper_end).1.symm
    exact .inr (once.eq hm mem_upper (field upper mem_upper) same bound)

theorem BoundsOnce.nodup_bounds (once : BoundsOnce terms) :
    (terms.filter (·.operator.isBound)).Nodup := by
  refine List.Pairwise.imp_of_mem ?_ (List.Pairwise.filter _ once)
  rintro a b ha hb apart rfl
  rw [(List.mem_filter.1 ha).2] at apart
  exact absurd (apart rfl rfl) Bool.true_eq_false.mp

/-- The terms of a field that has a range are the two ends and the others. -/
theorem bounds_perm (once : BoundsOnce terms) (fields : ∀ term ∈ terms, term.field = path)
    (h : boundsOf? terms = some (lower, upper)) :
    (terms.filter (·.operator.isBound)).Perm [lower, upper] := by
  obtain ⟨⟨mem_lower, lower_end⟩, mem_upper, upper_end⟩ := boundsOf?_eq_some h
  have lower_op := (FilterTerm.isEnd_iff.1 lower_end).1
  have upper_op := (FilterTerm.isEnd_iff.1 upper_end).1
  have apart : lower ≠ upper := by
    rintro rfl
    rw [lower_op] at upper_op
    cases upper_op
  have distinct : [lower, upper].Nodup := by simpa using apart
  rw [List.perm_ext_iff_of_nodup once.nodup_bounds distinct]
  intro term
  constructor
  · intro hm
    obtain ⟨hm, bound⟩ := List.mem_filter.1 hm
    simpa using eq_end_of_bound once fields h hm bound
  · intro hm
    rcases List.mem_cons.1 hm with rfl | hm
    · exact List.mem_filter.2 ⟨mem_lower, by simp [lower_op, Operator.isBound]⟩
    · rw [List.mem_singleton.1 hm]
      exact List.mem_filter.2 ⟨mem_upper, by simp [upper_op, Operator.isBound]⟩

theorem terms_single (terms : List FilterTerm) :
    (terms.map Demand.single).flatMap Demand.terms = terms := by
  rw [List.flatMap_map]
  exact List.flatMap_singleton' terms

/-- What a field demands is made of all its terms that ask for something. -/
theorem fieldDemands_perm (once : BoundsOnce terms) (fields : ∀ term ∈ terms, term.field = path) :
    ((fieldDemands terms).flatMap Demand.terms).Perm (terms.filter (!·.isSkipped)) := by
  unfold fieldDemands
  split
  · rename_i lower upper h
    obtain ⟨⟨mem_lower, lower_end⟩, mem_upper, upper_end⟩ := boundsOf?_eq_some h
    -- no bound is skipped: each is one of the two ends
    have ends : terms.filter (·.operator.isBound) =
        (terms.filter (!·.isSkipped)).filter (·.operator.isBound) := by
      rw [List.filter_filter]
      apply List.filter_congr
      intro term hm
      by_cases bound : term.operator.isBound = true
      · have asks : term.isSkipped = false := by
          rcases eq_end_of_bound once fields h hm bound with rfl | rfl
          · exact FilterTerm.not_skipped_of_end lower_end rfl
          · exact FilterTerm.not_skipped_of_end upper_end rfl
        simp [asks]
      · simp [bound]
    have others : (terms.filter fun term => !term.isSkipped && !term.operator.isBound) =
        (terms.filter (!·.isSkipped)).filter (!·.operator.isBound) := by
      rw [List.filter_filter]
      simp only [Bool.and_comm]
    rw [List.flatMap_cons, terms_single, others, Demand.terms]
    have both := bounds_perm once fields h
    rw [ends] at both
    exact (both.symm.append_right _).trans (List.filter_append_perm _ _)
  · rw [terms_single]

end

/-! ## One demand a term -/

theorem nodup_eraseDups {α : Type} [BEq α] [LawfulBEq α] (items : List α) :
    items.eraseDups.Nodup := by
  match items with
  | [] => exact List.nodup_nil
  | item :: items =>
    rw [List.eraseDups_cons, List.nodup_cons]
    exact ⟨by simp, nodup_eraseDups _⟩
termination_by items.length
decreasing_by exact Nat.lt_succ_of_le (List.length_filter_le _ _)

/-- Items that are taken key by key are all the items. -/
theorem perm_flatMap_filter {α κ : Type} [DecidableEq κ] (key : α → κ) {keys : List κ}
    (distinct : keys.Nodup) {items : List α} (h : ∀ item ∈ items, key item ∈ keys) :
    (keys.flatMap fun k => items.filter fun item => key item = k).Perm items := by
  induction keys generalizing items with
  | nil =>
    have none : items = [] := List.eq_nil_iff_forall_not_mem.2 fun item hm => nomatch h item hm
    rw [none]
    exact .nil
  | cons first keys ih =>
    obtain ⟨fresh, rest⟩ := List.nodup_cons.1 distinct
    have others : ∀ item ∈ items.filter (fun item => !decide (key item = first)),
        key item ∈ keys := by
      intro item hm
      obtain ⟨hm, apart⟩ := List.mem_filter.1 hm
      have apart : key item ≠ first := by simpa using apart
      exact (List.mem_cons.1 (h item hm)).resolve_left apart
    have same : (keys.flatMap fun k => items.filter fun item => key item = k) =
        keys.flatMap fun k => (items.filter fun item => !decide (key item = first)).filter
          fun item => key item = k := by
      apply List.flatMap_congr
      intro k hk
      rw [List.filter_filter]
      apply List.filter_congr
      intro item _
      by_cases here : key item = k
      · have apart : k ≠ first := fun e => fresh (e ▸ hk)
        simp [here, apart]
      · simp [here]
    rw [List.flatMap_cons, same]
    exact ((ih rest others).append_left _).trans (List.filter_append_perm _ _)

/-- Every term that asks for something is part of exactly one demand, and nothing else is. -/
theorem demandsOf_perm {terms : List FilterTerm} (once : BoundsOnce terms) :
    ((demandsOf terms).flatMap Demand.terms).Perm (terms.filter (!·.isSkipped)) := by
  have keys : ∀ term ∈ terms.filter (!·.isSkipped),
      term.field ∈ (terms.map (·.field)).eraseDups := by
    intro term hm
    rw [List.mem_eraseDups]
    exact List.mem_map_of_mem (List.mem_of_mem_filter hm)
  refine List.Perm.trans ?_ (perm_flatMap_filter (·.field) (nodup_eraseDups _) keys)
  rw [demandsOf, List.flatMap_assoc]
  apply List.Perm.flatMap_left
  intro path _
  have fields : ∀ term ∈ terms.filter (·.field = path), term.field = path := fun term hm =>
    of_decide_eq_true (List.mem_filter.1 hm).2
  have own := fieldDemands_perm (List.Pairwise.filter (·.field = path) once) fields
  rw [List.filter_filter] at own ⊢
  simpa only [Bool.and_comm] using own

/-- The bounds of a field are one demand before its others, which the sentinel may be among. An
empty text demands nothing. -/
example : demandsOf (parseFilters (some "null") [("name", .text ""), ("serial", .map
      [("gte", .int 1), ("ne", .text "null"), ("lte", .int 9)]), ("name.like", .text "a")]) =
    [.single ⟨"name", .like, .text "a"⟩,
      .range ⟨"serial", .gte, .int 1⟩ ⟨"serial", .lte, .int 9⟩,
      .single ⟨"serial", .isNull, .bool false⟩] := rfl

end RecordListing
