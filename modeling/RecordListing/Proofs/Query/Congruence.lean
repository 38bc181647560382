import RecordListing.Query.Listing
import RecordListing.Proofs.Query.Path

/-!
# Conditions depend on a plan through its columns alone

Two plans of one root that resolve the paths of a request alike compile it alike, failures and
parameter names included (`compileConditions_congr`, `compileSorting_congr`).
-/

set_option autoImplicit false

namespace RecordListing

open Text Outcome

section
variable {plan other : JoinPlan} {space : String}

/-! ## Filters -/

theorem compileTerm_congr {term : FilterTerm}
    (h : plan.resolve term.field = other.resolve term.field) (number : Nat) :
    compileTerm plan space number term = compileTerm other space number term := by
  simp only [compileTerm, h]

theorem compileRange_congr {path : String} (h : plan.resolve path = other.resolve path)
    (number : Nat) (low high : Value) :
    compileRange plan space number path low high =
      compileRange other space number path low high := by
  simp only [compileRange, h]

theorem compileTerms_congr {terms : List FilterTerm}
    (h : ∀ term ∈ terms, plan.resolve term.field = other.resolve term.field) (number : Nat) :
    compileTerms plan space number terms = compileTerms other space number terms := by
  induction terms generalizing number with
  | nil => rfl
  | cons term terms ih =>
    simp only [compileTerms, compileTerm_congr (h term List.mem_cons_self),
      ih fun t ht => h t (List.mem_cons_of_mem _ ht)]

theorem compileField_congr {path : String} {terms : List FilterTerm}
    (hp : plan.resolve path = other.resolve path)
    (h : ∀ term ∈ terms, plan.resolve term.field = other.resolve term.field) (number : Nat) :
    compileField plan space number path terms = compileField other space number path terms := by
  have rest (next : Nat) := @compileTerms_congr plan other space
    (terms.filter fun term => !term.operator.isBound)
    (fun t ht => h t (List.mem_filter.1 ht).1) next
  simp only [compileField, compileTerms_congr h, compileRange_congr hp, rest]

theorem compileFields_congr {fields : List (String × List FilterTerm)}
    (h : ∀ field ∈ fields, plan.resolve field.1 = other.resolve field.1 ∧
      ∀ term ∈ field.2, plan.resolve term.field = other.resolve term.field) (number : Nat) :
    compileFields plan space number fields = compileFields other space number fields := by
  induction fields generalizing number with
  | nil => rfl
  | cons field fields ih =>
    obtain ⟨hp, ht⟩ := h field List.mem_cons_self
    simp only [compileFields, compileField_congr hp ht,
      ih fun f hf => h f (List.mem_cons_of_mem _ hf)]

theorem mem_byField {terms : List FilterTerm} {field : String × List FilterTerm}
    (h : field ∈ byField terms) :
    (∃ term ∈ terms, term.field = field.1) ∧ ∀ term ∈ field.2, term ∈ terms := by
  simp only [byField, List.mem_map, List.mem_eraseDups] at h
  obtain ⟨path, ⟨term, ht, rfl⟩, rfl⟩ := h
  exact ⟨⟨term, ht, rfl⟩, fun t hm => (List.mem_filter.1 hm).1⟩

theorem compileFilters_congr {terms : List FilterTerm}
    (h : ∀ term ∈ terms, plan.resolve term.field = other.resolve term.field) :
    compileFilters plan space terms = compileFilters other space terms := by
  have fields (number : Nat) : compileFields plan space number (byField terms) =
      compileFields other space number (byField terms) :=
    compileFields_congr (fun field hf => by
      obtain ⟨⟨term, ht, he⟩, hm⟩ := mem_byField hf
      exact ⟨he ▸ h term ht, fun t hs => h t (hm t hs)⟩) number
  simp only [compileFilters, fields]

theorem compileGroups_congr {groups : List (List FilterTerm)}
    (h : ∀ group ∈ groups, ∀ term ∈ group, plan.resolve term.field = other.resolve term.field)
    (index : Nat) : compileGroups plan index groups = compileGroups other index groups := by
  induction groups generalizing index with
  | nil => rfl
  | cons group groups ih =>
    simp only [compileGroups, compileFilters_congr (h group List.mem_cons_self),
      ih fun g hg => h g (List.mem_cons_of_mem _ hg)]

/-! ## Search -/

theorem searchFields_congr {paths : List String}
    (h : ∀ path ∈ paths, plan.resolve path = other.resolve path) (term : String) (number : Nat) :
    searchFields plan term number paths = searchFields other term number paths := by
  induction paths generalizing number with
  | nil => rfl
  | cons path paths ih =>
    simp only [searchFields, h path List.mem_cons_self,
      ih fun p hp => h p (List.mem_cons_of_mem _ hp)]

theorem compileSearch_congr {search fields : Value}
    (h : ∀ term paths, searchTerm? search = some term → fields.paths = .ok paths →
      ∀ path ∈ paths, plan.resolve path = other.resolve path) :
    compileSearch plan search fields = compileSearch other search fields := by
  unfold compileSearch
  split
  · rfl
  · split
    · rfl
    · rfl
    · rename_i term _ ht
      cases hp : fields.paths with
      | error failure => rfl
      | ok paths =>
        have fit : searchFields plan term 0 (searchPaths paths) =
            searchFields other term 0 (searchPaths paths) :=
          searchFields_congr (fun p hm => h term paths ht hp p (List.mem_filter.1 hm).1) term 0
        simp only [ok_bind, searchCondition, fit]

/-! ## Requests -/

theorem compileSorting_congr (hr : plan.root = other.root) {sortBy : Value}
    (h : ∀ field, readSortField sortBy = .ok field → plan.resolve field = other.resolve field)
    (sortOrder : Value) (defaultField : Option String) :
    compileSorting plan sortBy sortOrder defaultField =
      compileSorting other sortBy sortOrder defaultField := by
  unfold compileSorting
  cases hf : readSortField sortBy with
  | error failure => rfl
  | ok field => simp only [ok_bind, hr, h field hf]

theorem compileConditions_congr (hr : plan.root = other.root) {request : Request}
    {terms : List FilterTerm} {groups : List (List FilterTerm)}
    (hf : ∀ term ∈ terms ++ groups.flatten, plan.resolve term.field = other.resolve term.field)
    (hs : ∀ term paths, searchTerm? request.search = some term →
      request.searchFields.paths = .ok paths →
      ∀ path ∈ paths, plan.resolve path = other.resolve path) :
    compileConditions plan request terms groups = compileConditions other request terms groups := by
  have filters : compileFilters plan "" terms = compileFilters other "" terms :=
    compileFilters_congr fun t ht => hf t (List.mem_append_left _ ht)
  have brackets : compileGroups plan 0 groups = compileGroups other 0 groups :=
    compileGroups_congr
      (fun g hg t ht => hf t (List.mem_append_right _ (List.mem_flatten.2 ⟨g, hg, ht⟩))) 0
  simp only [compileConditions, compileOrFilters, filters, brackets, compileSearch_congr hs, hr]

end

end RecordListing
