import RecordListing.Proofs.Query.GroupMeaning
import RecordListing.Proofs.Store.OtherPlans

/-!
# Groups of filters are alternatives

A request with several groups can be compiled if the requests with each of them can
(`compiles_iff`), and matches the rows that one of these matches (`matching_grouped`), although all
groups are joined beside each other. A group that asks for nothing changes nothing.
-/

set_option autoImplicit false

namespace RecordListing

open JoinPlan Outcome

/-! ## Compiling -/

section
variable {registry : Registry} {root : Entity} {request : Request} {terms : List FilterTerm}
    {groups fewer : List (List FilterTerm)} {plan other : JoinPlan} {defaultField : Option String}

/-- Fewer groups have fewer terms. -/
theorem mem_terms_mono (kept : ∀ group ∈ fewer, group ∈ groups) {term : FilterTerm}
    (hm : term ∈ terms ++ fewer.flatten) : term ∈ terms ++ groups.flatten := by
  refine List.mem_append.2 ((List.mem_append.1 hm).imp_right fun hm => ?_)
  obtain ⟨group, hg, ht⟩ := List.mem_flatten.1 hm
  exact List.mem_flatten.2 ⟨group, kept group hg, ht⟩

theorem JoinPlan.CoversAll.mono (h : plan.CoversAll request terms groups)
    (kept : ∀ group ∈ fewer, group ∈ groups) : plan.CoversAll request terms fewer where
  fields term hm := h.fields term (mem_terms_mono kept hm)
  search := h.search

/-- The conditions of a request with groups can be compiled if those of all else and those of each
group can. -/
theorem compileConditions_isOk_iff :
    (∃ conditions, compileConditions plan request terms groups = .ok conditions) ↔
      (∃ rest, compileConditions plan request terms [] = .ok rest) ∧
        ∀ group ∈ groups, ∃ own, compileFilters plan "" group = .ok own := by
  rw [← @compileGroups_isOk_iff plan 0 groups]
  constructor
  · rintro ⟨conditions, h⟩
    obtain ⟨filters, bracket, search, extra, hf, hb, hs, he, -⟩ := compileConditions_eq_ok_iff.1 h
    obtain ⟨own, ho, -⟩ := compileOrFilters_eq_ok_iff.1 hb
    exact ⟨⟨_, compileConditions_eq_ok_iff.2 ⟨filters, none, search, extra, hf, rfl, hs, he, rfl⟩⟩,
      own, ho⟩
  · rintro ⟨⟨rest, h⟩, own, ho⟩
    obtain ⟨filters, -, search, extra, hf, -, hs, he, -⟩ := compileConditions_eq_ok_iff.1 h
    exact ⟨_, compileConditions_eq_ok_iff.2 ⟨filters, _, search, extra, hf,
      compileOrFilters_eq_ok_iff.2 ⟨own, ho, rfl⟩, hs, he, rfl⟩⟩

/-- Whether a request with these groups can be planned and compiled. -/
def Compiles (registry : Registry) (root : Entity) (request : Request) (terms : List FilterTerm)
    (defaultField : Option String) (groups : List (List FilterTerm)) : Prop :=
  ∃ plan, planRequest registry root request terms groups = .ok plan ∧
    (∃ conditions, compileConditions plan request terms groups = .ok conditions) ∧
      ∃ sorting, compileSorting plan request.sortBy request.sortOrder defaultField = .ok sorting

section
variable (planned : planRequest registry root request terms groups = .ok plan)
    (planned' : planRequest registry root request terms fewer = .ok other)
include planned planned'

/-- Plans for different groups compile alike what has no groups. -/
theorem compileConditions_apart :
    compileConditions plan request terms [] = compileConditions other request terms [] := by
  obtain ⟨hreg, hroot, -⟩ := planRequest_root planned
  obtain ⟨hreg', hroot', -⟩ := planRequest_root planned'
  exact compileConditions_covered (hroot.trans hroot'.symm) (hreg.trans hreg'.symm)
    ((planRequest_coversAll planned).mono fun _ h => nomatch h)
    ((planRequest_coversAll planned').mono fun _ h => nomatch h)

/-- Plans for different groups compile alike a group that both have. -/
theorem compileFilters_apart {group : List FilterTerm} (hm : group ∈ groups)
    (hm' : group ∈ fewer) : compileFilters plan "" group = compileFilters other "" group := by
  obtain ⟨hreg, hroot, -⟩ := planRequest_root planned
  obtain ⟨hreg', hroot', -⟩ := planRequest_root planned'
  refine compileFilters_congr fun term ht => JoinPlan.resolve_congr ?_ ?_
    (hroot.trans hroot'.symm) (hreg.trans hreg'.symm)
  · exact (planRequest_coversAll planned).fields term
      (List.mem_append_right _ (List.mem_flatten.2 ⟨group, hm, ht⟩))
  · exact (planRequest_coversAll planned').fields term
      (List.mem_append_right _ (List.mem_flatten.2 ⟨group, hm', ht⟩))

end

theorem Compiles.mono (h : Compiles registry root request terms defaultField groups)
    (kept : ∀ group ∈ fewer, group ∈ groups) :
    Compiles registry root request terms defaultField fewer := by
  obtain ⟨plan, planned, conditions, sorting⟩ := h
  obtain ⟨rest, each⟩ := compileConditions_isOk_iff.1 conditions
  obtain ⟨read, leads⟩ := planRequest_isOk_iff.1 ⟨plan, planned⟩
  obtain ⟨other, planned'⟩ :
      ∃ other, planRequest registry root request terms fewer = .ok other :=
    planRequest_isOk_iff.2 ⟨read, fun term hm => leads term (mem_terms_mono kept hm)⟩
  refine ⟨other, planned', compileConditions_isOk_iff.2 ⟨?_, fun group hm => ?_⟩, ?_⟩
  · exact compileConditions_apart planned planned' ▸ rest
  · exact compileFilters_apart planned planned' (kept group hm) hm ▸ each group (kept group hm)
  · exact compileSorting_plans planned planned' rfl _ defaultField ▸ sorting

/-- A request with groups compiles if the request without groups does, and with each of them. -/
theorem compiles_iff :
    Compiles registry root request terms defaultField groups ↔
      Compiles registry root request terms defaultField [] ∧
        ∀ group ∈ groups, Compiles registry root request terms defaultField [group] := by
  constructor
  · intro h
    exact ⟨h.mono (fun _ hm => nomatch hm),
      fun group hg => h.mono fun other hm => List.mem_singleton.1 hm ▸ hg⟩
  · rintro ⟨⟨plan, planned, rest, sorting⟩, each⟩
    obtain ⟨read, leads⟩ := planRequest_isOk_iff.1 ⟨plan, planned⟩
    obtain ⟨whole, whole_planned⟩ :
        ∃ whole, planRequest registry root request terms groups = .ok whole := by
      refine planRequest_isOk_iff.2 ⟨read, fun term hm => ?_⟩
      rcases List.mem_append.1 hm with hm | hm
      · exact leads term (List.mem_append_left _ hm)
      · obtain ⟨group, hg, ht⟩ := List.mem_flatten.1 hm
        obtain ⟨alone, alone_planned, -⟩ := each group hg
        exact (planRequest_isOk_iff.1 ⟨alone, alone_planned⟩).2 term
          (List.mem_append_right _ (by simpa using ht))
    refine ⟨whole, whole_planned, compileConditions_isOk_iff.2 ⟨?_, fun group hg => ?_⟩, ?_⟩
    · exact compileConditions_apart planned whole_planned ▸ rest
    · obtain ⟨alone, alone_planned, conditions, -⟩ := each group hg
      rw [← compileFilters_apart alone_planned whole_planned List.mem_cons_self hg]
      exact (compileConditions_isOk_iff.1 conditions).2 group List.mem_cons_self
    · exact compileSorting_plans planned whole_planned rfl _ defaultField ▸ sorting

end

/-! ## Requests with groups -/

/-- The request with these groups. -/
def Request.grouped (request : Request) (groups : List Value) : Request :=
  { request with orFilters := .list groups }

/-- The terms of a group; none if it is no filter map. -/
def groupTerms (defaults : Defaults) (group : Value) : List FilterTerm :=
  parseFilters defaults.sentinel ((filterEntries group).toOption.getD [])

section
variable {defaults : Defaults} {registry : Registry} {entity : String} {request : Request}
    {groups : List Value}

theorem requestTerms_grouped_iff {terms : List FilterTerm} {parts : List (List FilterTerm)} :
    requestTerms defaults (request.grouped groups) = .ok (terms, parts) ↔
      (∃ entries, filterEntries request.filters = .ok entries ∧
        terms = parseFilters defaults.sentinel entries) ∧
      (∀ group ∈ groups, ∃ entries, filterEntries group = .ok entries) ∧
        parts = groups.map (groupTerms defaults) := by
  have listed : (request.grouped groups).groups = .ok groups := by
    cases groups <;> rfl
  have same : (request.grouped groups).filters = request.filters := rfl
  simp only [requestTerms, listed, same, ok_bind, pure_eq, bind_eq_ok_iff,
    mapM_eq_ok_iff ([] : List (String × Value))]
  constructor
  · rintro ⟨entries, he, maps, ⟨each, rfl⟩, h⟩
    cases h
    exact ⟨⟨entries, he, rfl⟩, each, by simp [groupTerms]⟩
  · rintro ⟨⟨entries, he, rfl⟩, each, rfl⟩
    exact ⟨entries, he, _, ⟨each, rfl⟩, by simp [groupTerms]⟩

theorem compileListing_grouped_isOk_iff :
    (∃ listing, compileListing defaults registry entity (request.grouped groups) = .ok listing) ↔
      ∃ root entries, (registry.get entity = .ok root ∧
        (∃ window, readWindow request.page request.limit defaults.pageSize = .ok window) ∧
          filterEntries request.filters = .ok entries) ∧
        (∀ group ∈ groups, ∃ entries, filterEntries group = .ok entries) ∧
          Compiles registry root request (parseFilters defaults.sentinel entries)
            defaults.sortField (groups.map (groupTerms defaults)) := by
  constructor
  · rintro ⟨listing, h⟩
    obtain ⟨root, terms, parts, hget, hw, ht, hp, hc, hs⟩ := compileListing_eq_ok h
    obtain ⟨⟨entries, he, rfl⟩, each, rfl⟩ := requestTerms_grouped_iff.1 ht
    exact ⟨root, entries, ⟨hget, ⟨_, hw⟩, he⟩, each, listing.plan, hp, ⟨_, hc⟩, _, hs⟩
  · rintro ⟨root, entries, ⟨hget, ⟨window, hw⟩, he⟩, each, plan, hp, ⟨conditions, hc⟩, sorting, hs⟩
    have ht : requestTerms defaults (request.grouped groups) = .ok
        (parseFilters defaults.sentinel entries, groups.map (groupTerms defaults)) :=
      requestTerms_grouped_iff.2 ⟨⟨entries, he, rfl⟩, each, rfl⟩
    exact ⟨⟨plan, window, conditions, sorting⟩, compileListing_of_parts hget hw ht hp hc hs⟩

/-- A request with groups compiles if the requests with each of them do. -/
theorem compileListing_groups (some_group : groups ≠ [])
    (each : ∀ group ∈ groups, ∃ listing,
      compileListing defaults registry entity (request.grouped [group]) = .ok listing) :
    ∃ listing, compileListing defaults registry entity (request.grouped groups) = .ok listing := by
  obtain ⟨first, hf⟩ := List.exists_mem_of_ne_nil groups some_group
  obtain ⟨root, entries, read, -, first_compiles⟩ :=
    compileListing_grouped_isOk_iff.1 (each first hf)
  refine compileListing_grouped_isOk_iff.2 ⟨root, entries, read, fun group hg => ?_,
    compiles_iff.2 ⟨first_compiles.mono (fun _ h => nomatch h), fun part hp => ?_⟩⟩
  · obtain ⟨-, -, -, readable, -⟩ := compileListing_grouped_isOk_iff.1 (each group hg)
    exact readable group List.mem_cons_self
  · obtain ⟨group, hg, rfl⟩ := List.mem_map.1 hp
    obtain ⟨root', entries', read', -, compiles⟩ :=
      compileListing_grouped_isOk_iff.1 (each group hg)
    cases read.1.symm.trans read'.1
    cases read.2.2.symm.trans read'.2.2
    exact compiles

/-! ## Matching -/

/-- The conditions that a group gives when it is the first one. -/
def Listing.groupConditions (listing : Listing) (defaults : Defaults) (group : Value) :
    Outcome (List Condition) := do
  let entries ← filterEntries group
  compileFilters listing.plan (groupSpace 0) (parseFilters defaults.sentinel entries)

theorem asksNothing_iff {listing : Listing} {group : Value} {conditions : List Condition}
    (h : listing.groupConditions defaults group = .ok conditions) :
    conditions = [] ↔ AsksNothing listing.plan (groupTerms defaults group) := by
  obtain ⟨entries, he, hc⟩ := bind_eq_ok_iff.1 h
  have terms : groupTerms defaults group = parseFilters defaults.sentinel entries := by
    rw [groupTerms, he]
    rfl
  rw [terms, compileFilters_nil_iff hc]

/-- The conditions of a request with groups are those of all else and that one of the groups holds,
unless none of them asks for anything. -/
theorem met_groups {plan : JoinPlan} {terms : List FilterTerm} {parts : List (List FilterTerm)}
    {conditions : List Condition}
    (h : compileConditions plan request terms parts = .ok conditions) :
    ∃ rest, compileConditions plan request terms [] = .ok rest ∧
      ∀ joined, Met joined conditions ↔ Met joined rest ∧ GroupsHold plan joined parts := by
  obtain ⟨filters, bracket, search, extra, hf, hb, hs, he, rfl⟩ := compileConditions_eq_ok_iff.1 h
  refine ⟨_, compileConditions_eq_ok_iff.2 ⟨filters, none, search, extra, hf, rfl, hs, he, rfl⟩,
    fun joined => ?_⟩
  simp only [Option.toList_none, List.append_nil, met_append, compileOrFilters_met_iff hb]
  constructor
  · rintro ⟨⟨⟨⟨others, holds⟩, search⟩, extra⟩, hidden⟩
    exact ⟨⟨⟨⟨others, search⟩, extra⟩, hidden⟩, holds⟩
  · rintro ⟨⟨⟨⟨others, search⟩, extra⟩, hidden⟩, holds⟩
    exact ⟨⟨⟨⟨others, holds⟩, search⟩, extra⟩, hidden⟩

/-- A row matches a request with groups if it does along the plan of any request that has these
groups too. -/
theorem matches_grouped_iff {fewer : List Value} {listing other : Listing}
    {entries : List (String × Value)} (he : filterEntries request.filters = .ok entries)
    (kept : ∀ group ∈ fewer, group ∈ groups)
    (compiled : compileListing defaults registry entity (request.grouped fewer) = .ok listing)
    (compiled' : compileListing defaults registry entity (request.grouped groups) = .ok other) :
    listing.plan.root = other.plan.root ∧ ∃ rest,
      compileConditions other.plan request (parseFilters defaults.sentinel entries) [] = .ok rest ∧
        (∀ group ∈ fewer, AsksNothing listing.plan (groupTerms defaults group) ↔
          AsksNothing other.plan (groupTerms defaults group)) ∧
        ∀ db row, listing.Matches db row ↔ ∃ a : Assignment,
          (∀ step ∈ other.plan.steps, a.Follows db row step) ∧
            Met (a.joined row other.plan.steps) rest ∧
              GroupsHold other.plan (a.joined row other.plan.steps)
                (fewer.map (groupTerms defaults)) := by
  obtain ⟨root, terms, parts, hget, -, ht, hp, hc, -⟩ := compileListing_eq_ok compiled
  obtain ⟨root', terms', parts', hget', -, ht', hp', hc', -⟩ := compileListing_eq_ok compiled'
  cases hget.symm.trans hget'
  obtain ⟨⟨entries₁, he₁, rfl⟩, -, rfl⟩ := requestTerms_grouped_iff.1 ht
  obtain ⟨⟨entries₂, he₂, rfl⟩, -, rfl⟩ := requestTerms_grouped_iff.1 ht'
  cases he.symm.trans he₁
  cases he.symm.trans he₂
  have roots := planRequest_root hp'
  have parts_kept : ∀ part ∈ fewer.map (groupTerms defaults),
      part ∈ groups.map (groupTerms defaults) := by
    intro part hm
    obtain ⟨group, hg, rfl⟩ := List.mem_map.1 hm
    exact List.mem_map_of_mem (kept group hg)
  have larger := (planRequest_coversAll hp').mono parts_kept
  have covers : other.plan.CoversAll (request.grouped fewer)
      (parseFilters defaults.sentinel entries) (fewer.map (groupTerms defaults)) :=
    ⟨larger.fields, larger.search⟩
  obtain ⟨rest, hr, met⟩ := met_groups (compileConditions_other hp hc roots covers)
  refine ⟨(planRequest_root hp).2.1.trans roots.2.1.symm, rest, hr, fun group hg => ?_,
    fun db row => ?_⟩
  · have own := List.mem_map_of_mem (f := groupTerms defaults) hg
    rw [AsksNothing, AsksNothing, compileFilters_apart hp hp' own (parts_kept _ own)]
  · simp only [matches_iff_admits hp hc roots covers, Admits, met]

/-- A group that asks for nothing gives no condition, but for the names of the others. -/
theorem conditions_without {plan : JoinPlan} {terms group : List FilterTerm}
    {before after : List (List FilterTerm)} {conditions others : List Condition}
    (nothing : AsksNothing plan group)
    (h : compileConditions plan request terms (before ++ after) = .ok conditions)
    (h' : compileConditions plan request terms (before ++ group :: after) = .ok others) :
    conditions.map Condition.unnamed = others.map Condition.unnamed := by
  obtain ⟨filters, bracket, search, extra, hf, hb, hs, he, rfl⟩ := compileConditions_eq_ok_iff.1 h
  obtain ⟨filters', bracket', search', extra', hf', hb', hs', he', rfl⟩ :=
    compileConditions_eq_ok_iff.1 h'
  obtain ⟨bracket'', hb'', same⟩ := compileOrFilters_without nothing hb'
  cases hf.symm.trans hf'
  cases hb.symm.trans hb''
  cases hs.symm.trans hs'
  cases he.symm.trans he'
  simp only [List.map_append, ← Option.toList_map, same]

/-- A row matches a request with groups that ask for something if it matches the request with one of
them. -/
theorem mem_matching_groups {whole : Listing} (some_group : groups ≠ [])
    (compiled : compileListing defaults registry entity (request.grouped groups) = .ok whole)
    (each : ∀ group ∈ groups, ∃ listing conditions,
      compileListing defaults registry entity (request.grouped [group]) = .ok listing ∧
        listing.groupConditions defaults group = .ok conditions ∧ conditions ≠ [])
    {db : Database} {row : Row} :
    row ∈ whole.matching db ↔ ∃ group ∈ groups, ∃ listing,
      compileListing defaults registry entity (request.grouped [group]) = .ok listing ∧
        row ∈ listing.matching db := by
  obtain ⟨root, terms, parts, -, -, ht, -⟩ := compileListing_eq_ok compiled
  obtain ⟨⟨entries, he, -⟩, -⟩ := requestTerms_grouped_iff.1 ht
  obtain ⟨-, rest, hr, -, matches_all⟩ :=
    matches_grouped_iff he (fun _ h => h) compiled compiled
  have kept {group : Value} (hg : group ∈ groups) : ∀ other ∈ [group], other ∈ groups :=
    fun _ h => List.mem_singleton.1 h ▸ hg
  have asks {group : Value} (hg : group ∈ groups) :
      ¬ AsksNothing whole.plan (groupTerms defaults group) := by
    obtain ⟨listing, conditions, compiled_alone, hc, ne⟩ := each group hg
    obtain ⟨-, -, -, same, -⟩ := matches_grouped_iff he (kept hg) compiled_alone compiled
    rwa [← same group List.mem_cons_self, ← asksNothing_iff hc]
  rw [Listing.mem_matching_iff (compileListing_planned compiled), matches_all]
  constructor
  · rintro ⟨hrow, a, follows, met, none_asks | ⟨_, hm, holds⟩⟩
    · obtain ⟨first, hf⟩ := List.exists_mem_of_ne_nil groups some_group
      exact absurd (none_asks _ (List.mem_map_of_mem hf)) (asks hf)
    · obtain ⟨group, hg, rfl⟩ := List.mem_map.1 hm
      obtain ⟨listing, -, compiled_alone, -⟩ := each group hg
      obtain ⟨root, rest', hr', -, matches_one⟩ :=
        matches_grouped_iff he (kept hg) compiled_alone compiled
      cases hr.symm.trans hr'
      refine ⟨group, hg, listing, compiled_alone, ?_⟩
      rw [Listing.mem_matching_iff (compileListing_planned compiled_alone), root, matches_one]
      exact ⟨hrow, a, follows, met, .inr ⟨_, List.mem_cons_self, holds⟩⟩
  · rintro ⟨group, hg, listing, compiled_alone, hrow⟩
    obtain ⟨root, rest', hr', -, matches_one⟩ :=
      matches_grouped_iff he (kept hg) compiled_alone compiled
    cases hr.symm.trans hr'
    rw [Listing.mem_matching_iff (compileListing_planned compiled_alone), root, matches_one] at hrow
    obtain ⟨hrow, a, follows, met, none_asks | ⟨part, hm, holds⟩⟩ := hrow
    · exact absurd (none_asks _ List.mem_cons_self) (asks hg)
    · rw [List.mem_singleton.1 hm] at holds
      exact ⟨hrow, a, follows, met, .inr ⟨_, List.mem_map_of_mem hg, holds⟩⟩

/-- One more group that asks for nothing changes nothing, wherever it stands. -/
theorem answersLike_nothing {before after : List Value} {group : Value}
    {listing other alone : Listing}
    (compiled :
      compileListing defaults registry entity (request.grouped (before ++ after)) = .ok listing)
    (compiled' : compileListing defaults registry entity
      (request.grouped (before ++ group :: after)) = .ok other)
    (compiled_alone :
      compileListing defaults registry entity (request.grouped [group]) = .ok alone)
    (nothing : alone.groupConditions defaults group = .ok []) (db : Database) :
    listing.AnswersLike other db := by
  obtain ⟨root, terms, parts, hget, -, ht, hp, hc, -⟩ := compileListing_eq_ok compiled
  obtain ⟨root', terms', parts', hget', -, ht', hp', hc', -⟩ := compileListing_eq_ok compiled'
  cases hget.symm.trans hget'
  obtain ⟨⟨entries, he, rfl⟩, -, rfl⟩ := requestTerms_grouped_iff.1 ht
  obtain ⟨⟨entries', he', rfl⟩, -, rfl⟩ := requestTerms_grouped_iff.1 ht'
  cases he.symm.trans he'
  have own : group ∈ before ++ group :: after := List.mem_append_right _ List.mem_cons_self
  have asks_nothing : AsksNothing other.plan (groupTerms defaults group) := by
    obtain ⟨-, -, -, same, -⟩ := matches_grouped_iff he
      (fun _ h => List.mem_singleton.1 h ▸ own) compiled_alone compiled'
    rw [← same group List.mem_cons_self, ← asksNothing_iff nothing]
  have kept : ∀ part ∈ (before ++ after).map (groupTerms defaults),
      part ∈ (before ++ group :: after).map (groupTerms defaults) := by
    intro part hm
    obtain ⟨group', hg, rfl⟩ := List.mem_map.1 hm
    exact List.mem_map_of_mem
      (List.mem_append.2 ((List.mem_append.1 hg).imp_right (List.mem_cons_of_mem _)))
  have larger := (planRequest_coversAll hp').mono kept
  have fewer := compileConditions_other hp hc (planRequest_root hp')
    ⟨larger.fields, larger.search⟩
  rw [List.map_append] at fewer
  rw [List.map_append, List.map_cons] at hc'
  have pages : (request.grouped (before ++ after)).PagesLike
      (request.grouped (before ++ group :: after)) := ⟨rfl, rfl, rfl, rfl⟩
  exact answersLike_of_unnamed pages compiled compiled'
    (conditions_without asks_nothing fewer hc') db

/-- A request with several groups that ask for something matches the rows that the requests with one
of them match. One more group that asks for nothing changes nothing, wherever it stands. -/
theorem matching_grouped (some_group : groups ≠ [])
    (each : ∀ group ∈ groups, ∃ listing conditions,
      compileListing defaults registry entity (request.grouped [group]) = .ok listing ∧
        listing.groupConditions defaults group = .ok conditions ∧ conditions ≠ [])
    (db : Database) :
    ∃ whole, compileListing defaults registry entity (request.grouped groups) = .ok whole ∧
      (∀ row, row ∈ whole.matching db ↔ ∃ group ∈ groups, ∃ listing,
        compileListing defaults registry entity (request.grouped [group]) = .ok listing ∧
          row ∈ listing.matching db) ∧
      ∀ before after empty alone, groups = before ++ after →
        compileListing defaults registry entity (request.grouped [empty]) = .ok alone →
        alone.groupConditions defaults empty = .ok [] →
        ∃ more, compileListing defaults registry entity
            (request.grouped (before ++ empty :: after)) = .ok more ∧
          whole.AnswersLike more db := by
  have alone_compiled : ∀ group ∈ groups, ∃ listing,
      compileListing defaults registry entity (request.grouped [group]) = .ok listing := by
    intro group hg
    obtain ⟨listing, -, compiled, -⟩ := each group hg
    exact ⟨listing, compiled⟩
  obtain ⟨whole, compiled⟩ := compileListing_groups some_group alone_compiled
  refine ⟨whole, compiled, fun row => mem_matching_groups some_group compiled each, ?_⟩
  rintro before after empty alone rfl compiled_alone nothing
  obtain ⟨more, compiled_more⟩ : ∃ more, compileListing defaults registry entity
      (request.grouped (before ++ empty :: after)) = .ok more := by
    refine compileListing_groups (by simp) fun group hg => ?_
    rcases List.mem_append.1 hg with hg | hg
    · exact alone_compiled group (List.mem_append_left _ hg)
    · rcases List.mem_cons.1 hg with rfl | hg
      · exact ⟨alone, compiled_alone⟩
      · exact alone_compiled group (List.mem_append_right _ hg)
  exact ⟨more, compiled_more, answersLike_nothing compiled compiled_more compiled_alone nothing db⟩

end

namespace Sample

/-- Pairs of a widget that is a nut. -/
def nutGroup : Value := .map [("widget.name", .text "nut")]

/-- Pairs of a widget with a pin as a part. -/
def pinGroup : Value := .map [("widget.children.name", .text "pin")]

/-- Any pairs; the empty text asks for nothing. -/
def anyGroup : Value := .map [("widget.parent.name", .text "")]

end Sample

theorem matching_grouped_widgets :
    let request : Request := { filters := .map [("left_id", .int 1)] }
    let groups := [Sample.nutGroup, Sample.pinGroup]
    (∀ group ∈ groups, ∃ listing conditions,
      compileListing {} Sample.registry "pairing" (request.grouped [group]) = .ok listing ∧
        listing.groupConditions {} group = .ok conditions ∧ conditions ≠ []) ∧
    ∃ whole more,
      compileListing {} Sample.registry "pairing" (request.grouped groups) = .ok whole ∧
      (∀ row, row ∈ whole.matching Sample.workshop ↔ ∃ group ∈ groups, ∃ listing,
        compileListing {} Sample.registry "pairing" (request.grouped [group]) = .ok listing ∧
          row ∈ listing.matching Sample.workshop) ∧
      compileListing {} Sample.registry "pairing" (request.grouped
        [Sample.nutGroup, Sample.anyGroup, Sample.pinGroup]) = .ok more ∧
      whole.AnswersLike more Sample.workshop := by
  intro request groups
  have asks (group : Value) (test : List Condition → Bool)
      (h : (compileListing {} Sample.registry "pairing" (request.grouped [group])).toOption.any
        (fun listing => (listing.groupConditions {} group).toOption.any test) = true) :
      ∃ listing conditions,
        compileListing {} Sample.registry "pairing" (request.grouped [group]) = .ok listing ∧
          listing.groupConditions {} group = .ok conditions ∧ test conditions = true := by
    obtain ⟨listing, compiled, found⟩ := exists_ok_of_any h
    obtain ⟨conditions, hc, passed⟩ := exists_ok_of_any found
    exact ⟨listing, conditions, compiled, hc, passed⟩
  have each : ∀ group ∈ groups, ∃ listing conditions,
      compileListing {} Sample.registry "pairing" (request.grouped [group]) = .ok listing ∧
        listing.groupConditions {} group = .ok conditions ∧ conditions ≠ [] := by
    have some_asked (group : Value) (hg : group ∈ groups) :
        (compileListing {} Sample.registry "pairing" (request.grouped [group])).toOption.any
          (fun listing => (listing.groupConditions {} group).toOption.any (!·.isEmpty)) = true := by
      rcases List.mem_cons.1 hg with rfl | hg
      · decide +kernel
      · obtain rfl := List.mem_singleton.1 hg
        decide +kernel
    intro group hg
    obtain ⟨listing, conditions, compiled, hc, some_condition⟩ := asks group _ (some_asked group hg)
    have ne : conditions ≠ [] := fun none_asked => by simp [none_asked] at some_condition
    exact ⟨listing, conditions, compiled, hc, ne⟩
  obtain ⟨alone, conditions, compiled_alone, hc, nothing⟩ :=
    asks Sample.anyGroup List.isEmpty (by decide +kernel)
  rw [List.isEmpty_iff.1 nothing] at hc
  obtain ⟨whole, compiled, union, same⟩ :=
    matching_grouped (by simp [groups]) each Sample.workshop
  obtain ⟨more, compiled_more, answers⟩ :=
    same [Sample.nutGroup] [Sample.pinGroup] Sample.anyGroup alone rfl compiled_alone hc
  exact ⟨each, whole, more, compiled, union, compiled_more, answers⟩

end RecordListing
