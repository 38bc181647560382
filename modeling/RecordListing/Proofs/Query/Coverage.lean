import RecordListing.Proofs.Query.Congruence

/-!
# Every path of a request is joined

The plan of a request is made from the same paths that filters, groups, search and sorting resolve
later, so that it has joined what all of them go through (`planRequest_joins`) and covers them. So
the plans of two requests compile alike what both of them ask for (`compileConditions_plans`).
-/

set_option autoImplicit false

namespace RecordListing

open Text Outcome

/-! ## Plans of requests -/

theorem mem_relationPaths {root : Entity} {path : String} {paths : List String}
    (hne : root.relationHops path ≠ []) (hm : path ∈ paths) :
    pathText (root.relationHops path) ∈ relationPaths root paths := by
  simp only [relationPaths, List.mem_filter, List.mem_map]
  exact ⟨⟨path, hm, rfl⟩, by simpa using pathText_relationHops_ne_empty hne⟩

theorem planRequest_eq_ok {registry : Registry} {root : Entity} {request : Request}
    {terms : List FilterTerm} {groups : List (List FilterTerm)} {plan : JoinPlan}
    (h : planRequest registry root request terms groups = .ok plan) :
    ∃ relations sortField optional, request.relations.paths = .ok relations ∧
      readSortField request.sortBy = .ok sortField ∧
      searchRelations root request = .ok optional ∧
      JoinPlan.build registry root
        (relations ++ relationPaths root ((terms ++ groups.flatten).map (·.field) ++ [sortField]))
        optional = .ok plan := by
  simp only [planRequest, requiredPaths, bind_eq_ok_iff, pure_eq] at h
  obtain ⟨required, ⟨relations, hr, sortField, hs, he⟩, optional, ho, hb⟩ := h
  cases he
  refine ⟨relations, sortField, optional, hr, hs, ho, ?_⟩
  split at hb
  · rename_i hplan
    cases hb
    exact hplan
  · cases hb

/-- The parts of a listing, each with what it was compiled from. -/
theorem compileListing_eq_ok {defaults : Defaults} {registry : Registry} {entity : String}
    {request : Request} {listing : Listing}
    (h : compileListing defaults registry entity request = .ok listing) :
    ∃ root terms groups, registry.get entity = .ok root ∧
      readWindow request.page request.limit defaults.pageSize = .ok listing.window ∧
      requestTerms defaults request = .ok (terms, groups) ∧
      planRequest registry root request terms groups = .ok listing.plan ∧
      compileConditions listing.plan request terms groups = .ok listing.conditions ∧
      compileSorting listing.plan request.sortBy request.sortOrder defaults.sortField =
        .ok listing.sorting := by
  simp only [compileListing, bind_eq_ok_iff, pure_eq] at h
  obtain ⟨root, hr, window, hw, ⟨terms, groups⟩, ht, plan, hp, conditions, hc, sorting, hs, he⟩ := h
  cases he
  exact ⟨root, terms, groups, hr, hw, ht, hp, hc, hs⟩

theorem compileListing_of_parts {defaults : Defaults} {registry : Registry} {entity : String}
    {request : Request} {root : Entity} {terms : List FilterTerm} {groups : List (List FilterTerm)}
    {listing : Listing} (hget : registry.get entity = .ok root)
    (hw : readWindow request.page request.limit defaults.pageSize = .ok listing.window)
    (ht : requestTerms defaults request = .ok (terms, groups))
    (hp : planRequest registry root request terms groups = .ok listing.plan)
    (hc : compileConditions listing.plan request terms groups = .ok listing.conditions)
    (hs : compileSorting listing.plan request.sortBy request.sortOrder defaults.sortField =
      .ok listing.sorting) :
    compileListing defaults registry entity request = .ok listing := by
  simp only [compileListing, hget, hw, ht, hp, hc, hs, ok_bind, pure_eq]

/-- The conditions of a request, part by part. -/
theorem compileConditions_eq_ok_iff {plan : JoinPlan} {request : Request} {terms : List FilterTerm}
    {groups : List (List FilterTerm)} {conditions : List Condition} :
    compileConditions plan request terms groups = .ok conditions ↔
      ∃ filters bracket search extra, compileFilters plan "" terms = .ok filters ∧
        compileOrFilters plan groups = .ok bracket ∧
        compileSearch plan request.search request.searchFields = .ok search ∧
        compileExtra plan.root [] request.extraConditions = .ok extra ∧
        conditions = filters ++ bracket.toList ++ search.toList ++ extra ++
          if request.withDeleted then [] else notDeleted plan.root := by
  simp only [compileConditions, bind_eq_ok_iff, pure_eq, Except.ok.injEq]
  constructor
  · rintro ⟨filters, hf, bracket, hb, search, hs, extra, he, rfl⟩
    exact ⟨filters, bracket, search, extra, hf, hb, hs, he, rfl⟩
  · rintro ⟨filters, bracket, search, extra, hf, hb, hs, he, rfl⟩
    exact ⟨filters, hf, bracket, hb, search, hs, extra, he, rfl⟩

namespace JoinPlan

variable {registry : Registry} {root : Entity}

/-- Whether the plan has joined the relations in front of a path's column. -/
def Joins (plan : JoinPlan) (path : String) : Prop :=
  plan.root.relationHops path ≠ [] → reaches plan.steps (plan.root.relationHops path) = true

theorem Joins.covers {plan : JoinPlan} {path : String} (h : plan.Joins path) :
    plan.Covers path := by
  by_cases he : plan.root.relationHops path = []
  · exact .inl he
  · exact .inr (.inr (h he))

theorem firstFault?_eq_none {paths : List String} (h : firstFault? registry root paths = none)
    {path : String} (hm : path ∈ paths) (hne : path ≠ "") :
    ∃ new, stepsOf registry root path = .ok new := by
  induction paths with
  | nil => cases hm
  | cons first paths ih =>
    simp only [firstFault?] at h
    split at h
    · rename_i he
      rcases List.mem_cons.1 hm with rfl | hm
      · exact absurd (by simpa using he) hne
      · exact ih h hm
    · split at h
      · cases h
      · rename_i new hn
        rcases List.mem_cons.1 hm with rfl | hm
        · exact ⟨new, hn⟩
        · exact ih h hm

theorem firstFault?_eq_none_iff {paths : List String} :
    firstFault? registry root paths = none ↔
      ∀ path ∈ paths, path ≠ "" → ∃ new, stepsOf registry root path = .ok new := by
  refine ⟨fun h path hm hne => firstFault?_eq_none h hm hne, fun h => ?_⟩
  induction paths with
  | nil => rfl
  | cons first paths ih =>
    have rest := ih fun path hm => h path (List.mem_cons_of_mem _ hm)
    simp only [firstFault?, rest]
    split
    · rfl
    · rename_i hne
      obtain ⟨new, hn⟩ := h first List.mem_cons_self (by simpa using hne)
      rw [hn]

section
variable {required optional : List String} {plan : JoinPlan}
    (hb : build registry root required optional = .ok plan)
include hb

theorem required_followed {path : String} (hm : path ∈ required) (hne : path ≠ "") :
    ∃ new, stepsOf registry root path = .ok new := by
  rw [build_eq] at hb
  split at hb
  · cases hb
  · rename_i hf
    exact firstFault?_eq_none hf hm hne

/-- What is asked for and can be followed is joined. -/
theorem build_joins {path : String}
    (hm : root.relationHops path ≠ [] →
      pathText (root.relationHops path) ∈ required ++ optional)
    (reached : (registry.reach? root (root.relationHops path)).isSome) : plan.Joins path := by
  obtain ⟨-, rfl, -, mem⟩ := build_spec hb
  intro hne
  obtain ⟨new, hnew⟩ : ∃ new, stepsAlong registry (pathText (plan.root.relationHops path)) []
      plan.root (plan.root.relationHops path) = .ok new := stepsAlong_isOk_iff.2 reached
  obtain ⟨step, hs, hhops⟩ : ∃ step ∈ new, step.hops = plan.root.relationHops path :=
    (mem_stepsAlong hnew).2 ⟨plan.root.relationHops path, [], hne, by simp, by simp⟩
  refine reaches_iff.2 ⟨step, (mem step).2 ⟨_, hm hne, pathText_relationHops_ne_empty hne, new, ?_,
    hs⟩, hhops⟩
  rw [stepsOf_relationHops hne, hnew]

theorem build_joins_required {path : String}
    (hm : root.relationHops path ≠ [] → pathText (root.relationHops path) ∈ required) :
    plan.Joins path := by
  intro hne
  have hroot := (build_spec hb).2.1
  rw [hroot] at hne
  obtain ⟨new, hnew⟩ := required_followed hb (hm hne) (pathText_relationHops_ne_empty hne)
  rw [stepsOf_relationHops hne] at hnew
  exact build_joins hb (fun h => List.mem_append_left _ (hm h))
    (stepsAlong_isOk_iff.1 ⟨new, hnew⟩) (hroot.symm ▸ hne)

end

end JoinPlan

/-- The plan of a request has joined what its filters, groups and sort field resolve, and what its
search resolves as far as it can be followed. -/
theorem planRequest_joins {registry : Registry} {root : Entity} {request : Request}
    {terms : List FilterTerm} {groups : List (List FilterTerm)} {plan : JoinPlan}
    (h : planRequest registry root request terms groups = .ok plan) :
    (∀ term ∈ terms ++ groups.flatten, plan.Joins term.field) ∧
      (∀ field, readSortField request.sortBy = .ok field → plan.Joins field) ∧
      ∀ term paths, searchTerm? request.search = some term →
        request.searchFields.paths = .ok paths → ∀ path ∈ paths,
        (registry.reach? root (root.relationHops path)).isSome → plan.Joins path := by
  obtain ⟨relations, sortField, optional, -, hs, ho, hb⟩ := planRequest_eq_ok h
  refine ⟨fun term hm => JoinPlan.build_joins_required hb fun hne => ?_,
    fun field hf => JoinPlan.build_joins_required hb fun hne => ?_,
    fun term paths ht hp path hm reached => JoinPlan.build_joins hb (fun hne => ?_) reached⟩
  · have hfield : term.field ∈ (terms ++ groups.flatten).map (·.field) ++ [sortField] :=
      List.mem_append_left _ (List.mem_map_of_mem hm)
    exact List.mem_append_right _ (mem_relationPaths hne hfield)
  · rw [hs] at hf
    cases hf
    exact List.mem_append_right _ (mem_relationPaths hne (by simp))
  · simp only [searchRelations, ht, hp, map_ok, Except.ok.injEq] at ho
    exact List.mem_append_right _ (ho ▸ mem_relationPaths hne hm)

/-- Whether the relations in front of the column of a path can be followed. -/
def Entity.Leads (root : Entity) (registry : Registry) (path : String) : Prop :=
  root.relationHops path ≠ [] → (registry.reach? root (root.relationHops path)).isSome

theorem firstFault?_relationPaths_iff {registry : Registry} {root : Entity}
    {paths : List String} :
    JoinPlan.firstFault? registry root (relationPaths root paths) = none ↔
      ∀ path ∈ paths, root.Leads registry path := by
  rw [JoinPlan.firstFault?_eq_none_iff]
  constructor
  · intro followed path hm hne
    obtain ⟨new, hn⟩ := followed _ (mem_relationPaths hne hm) (pathText_relationHops_ne_empty hne)
    rw [stepsOf_relationHops hne] at hn
    exact JoinPlan.stepsAlong_isOk_iff.1 ⟨new, hn⟩
  · intro leads relations hm hne
    obtain ⟨path, hp, rfl⟩ := List.mem_map.1 (List.mem_filter.1 hm).1
    have some_hops : root.relationHops path ≠ [] := by
      intro h
      rw [h] at hne
      exact hne rfl
    rw [stepsOf_relationHops some_hops]
    exact JoinPlan.stepsAlong_isOk_iff.2 (leads path hp some_hops)

/-- What it takes to plan a request: its relations, its sort field and its search fields can be
read, and the relations and those in front of all fields of filters and sorting can be followed. -/
theorem planRequest_isOk_iff {registry : Registry} {root : Entity} {request : Request}
    {terms : List FilterTerm} {groups : List (List FilterTerm)} :
    (∃ plan, planRequest registry root request terms groups = .ok plan) ↔
      ((∃ optional, searchRelations root request = .ok optional) ∧
        (∃ relations, request.relations.paths = .ok relations ∧
          JoinPlan.firstFault? registry root relations = none) ∧
        ∃ field, readSortField request.sortBy = .ok field ∧ root.Leads registry field) ∧
      ∀ term ∈ terms ++ groups.flatten, root.Leads registry term.field := by
  have followed_iff (relations : List String) (field : String) :
      JoinPlan.firstFault? registry root
          (relations ++ relationPaths root ((terms ++ groups.flatten).map (·.field) ++ [field])) =
          none ↔
        JoinPlan.firstFault? registry root relations = none ∧
          (∀ term ∈ terms ++ groups.flatten, root.Leads registry term.field) ∧
            root.Leads registry field := by
    rw [JoinPlan.firstFault?_eq_none_iff, List.forall_mem_append,
      ← JoinPlan.firstFault?_eq_none_iff, ← JoinPlan.firstFault?_eq_none_iff,
      firstFault?_relationPaths_iff, List.forall_mem_append, List.forall_mem_map,
      List.forall_mem_singleton]
  constructor
  · rintro ⟨plan, h⟩
    obtain ⟨relations, field, optional, hr, hs, ho, hb⟩ := planRequest_eq_ok h
    rw [JoinPlan.build_eq] at hb
    split at hb
    · cases hb
    · rename_i none_bad
      obtain ⟨valid, fields, leads⟩ := (followed_iff relations field).1 none_bad
      exact ⟨⟨⟨optional, ho⟩, ⟨relations, hr, valid⟩, field, hs, leads⟩, fields⟩
  · rintro ⟨⟨⟨optional, ho⟩, ⟨relations, hr, valid⟩, field, hs, leads⟩, fields⟩
    have none_bad := (followed_iff relations field).2 ⟨valid, fields, leads⟩
    cases h : planRequest registry root request terms groups with
    | ok plan => exact ⟨plan, rfl⟩
    | error failure =>
      simp only [planRequest, requiredPaths, hr, hs, ho, ok_bind, pure_eq, JoinPlan.build_eq,
        none_bad] at h
      cases h

theorem planRequest_root {registry : Registry} {root : Entity} {request : Request}
    {terms : List FilterTerm} {groups : List (List FilterTerm)} {plan : JoinPlan}
    (h : planRequest registry root request terms groups = .ok plan) :
    plan.registry = registry ∧ plan.root = root ∧ JoinPlan.Planned registry root plan.steps := by
  obtain ⟨_, _, _, -, -, -, hb⟩ := planRequest_eq_ok h
  obtain ⟨hreg, hroot, planned, -⟩ := JoinPlan.build_spec hb
  exact ⟨hreg, hroot, planned⟩

theorem planRequest_covers_search {registry : Registry} {root : Entity} {request : Request}
    {terms : List FilterTerm} {groups : List (List FilterTerm)} {plan : JoinPlan}
    (h : planRequest registry root request terms groups = .ok plan) {term : String}
    {paths : List String} (ht : searchTerm? request.search = some term)
    (hp : request.searchFields.paths = .ok paths) : ∀ path ∈ paths, plan.Covers path := by
  intro path hm
  obtain ⟨hreg, hroot, -⟩ := planRequest_root h
  by_cases reached : (registry.reach? root (root.relationHops path)).isSome
  · exact ((planRequest_joins h).2.2 term paths ht hp path hm reached).covers
  · exact .inr (.inl (by simpa [hreg, hroot] using reached))

/-- Whether a plan covers all paths that compiling a request resolves. -/
structure JoinPlan.CoversAll (plan : JoinPlan) (request : Request) (terms : List FilterTerm)
    (groups : List (List FilterTerm)) : Prop where
  fields : ∀ term ∈ terms ++ groups.flatten, plan.Covers term.field
  search : ∀ term paths, searchTerm? request.search = some term →
    request.searchFields.paths = .ok paths → ∀ path ∈ paths, plan.Covers path

theorem planRequest_coversAll {registry : Registry} {root : Entity} {request : Request}
    {terms : List FilterTerm} {groups : List (List FilterTerm)} {plan : JoinPlan}
    (h : planRequest registry root request terms groups = .ok plan) :
    plan.CoversAll request terms groups where
  fields term hm := ((planRequest_joins h).1 term hm).covers
  search _ _ ht hp := planRequest_covers_search h ht hp

/-- Plans that cover all of a request compile it alike, whatever else they join. -/
theorem compileConditions_covered {request : Request} {terms : List FilterTerm}
    {groups : List (List FilterTerm)} {plan other : JoinPlan}
    (hroot : plan.root = other.root) (hregistry : plan.registry = other.registry)
    (covers : plan.CoversAll request terms groups)
    (covers' : other.CoversAll request terms groups) :
    compileConditions plan request terms groups = compileConditions other request terms groups :=
  compileConditions_congr hroot
    (fun term hm => JoinPlan.resolve_congr (covers.fields term hm) (covers'.fields term hm) hroot
      hregistry)
    fun term paths ht hp path hm => JoinPlan.resolve_congr (covers.search term paths ht hp path hm)
      (covers'.search term paths ht hp path hm) hroot hregistry

/-- The plans of two requests compile alike the terms that both have. -/
theorem compileConditions_plans {registry : Registry} {root : Entity} {request request' : Request}
    {terms terms' : List FilterTerm} {groups : List (List FilterTerm)} {plan other : JoinPlan}
    (h : planRequest registry root request terms groups = .ok plan)
    (h' : planRequest registry root request' terms' groups = .ok other)
    (search : request'.search = request.search)
    (searchFields : request'.searchFields = request.searchFields)
    (kept : ∀ term ∈ terms, term ∈ terms') :
    compileConditions plan request terms groups = compileConditions other request terms groups := by
  obtain ⟨hreg, hroot, -⟩ := planRequest_root h
  obtain ⟨hreg', hroot', -⟩ := planRequest_root h'
  have larger := planRequest_coversAll h'
  refine compileConditions_covered (hroot.trans hroot'.symm) (hreg.trans hreg'.symm)
    (planRequest_coversAll h) ⟨fun term hm => larger.fields term ?_, fun term paths ht hp =>
      larger.search term paths (search ▸ ht) (searchFields ▸ hp)⟩
  exact List.mem_append.2 ((List.mem_append.1 hm).imp_left (kept term))

theorem compileListing_planned {defaults : Defaults} {registry : Registry} {entity : String}
    {request : Request} {listing : Listing}
    (h : compileListing defaults registry entity request = .ok listing) :
    JoinPlan.Planned registry listing.plan.root listing.plan.steps := by
  obtain ⟨root, terms, groups, -, -, -, hp, -⟩ := compileListing_eq_ok h
  obtain ⟨-, hroot, planned⟩ := planRequest_root hp
  exact hroot ▸ planned

end RecordListing
