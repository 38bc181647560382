import RecordListing.Proofs.Query.Compilation
import RecordListing.Proofs.Query.MoreFilters
import RecordListing.Proofs.Store.Meaning

/-!
# Filters narrow a listing

A request with one more entry in its filter map matches no other rows (`matches_of_more_filters`),
whatever the entry joins or asks for. The exception is an entry that makes a range of whole days
with a bound that is there already: such a range compares the day of the column, which may be
within the range although the column is not within the bound (`widget_matches_whole_day`).
-/

set_option autoImplicit false

namespace RecordListing

open JoinPlan Outcome

/-! ## Requests with more filters -/

/-- Whether a filter map has the entries of another one, and one entry more. -/
def AddsEntry (key : String) (value : Value) (filters larger : Value) : Prop :=
  ∃ entries more before after, filterEntries filters = .ok entries ∧
    filterEntries larger = .ok more ∧ flattenFilters entries = before ++ after ∧
    flattenFilters more = before ++ (key, value) :: after

/-- Whether each bound of a request that an entry would make a range of whole days with is one that
such a range keeps to. -/
def Request.KeepsBounds (request : Request) (defaults : Defaults) (registry : Registry)
    (root : Entity) (db : Database) (key : String) (value : Value) : Prop :=
  ∀ terms groups, requestTerms defaults request = .ok (terms, groups) →
    ∀ other ∈ terms, (FilterTerm.ofEntry defaults.sentinel key value).MergesDays other →
      ∀ field, root.resolve registry other.field = .ok field →
        KeepsDays field.column.type other.operator ∧ db.StoresTimes field.entity field.column

theorem requestTerms_more {defaults : Defaults} {request : Request} {filters : Value} {key : String}
    {value : Value} (more : AddsEntry key value request.filters filters)
    {terms terms' : List FilterTerm} {groups groups' : List (List FilterTerm)}
    (h : requestTerms defaults request = .ok (terms, groups))
    (h' : requestTerms defaults { request with filters } = .ok (terms', groups')) :
    groups' = groups ∧ BoundsOnce terms' ∧ (terms' = terms ∨ ∃ front back, terms = front ++ back ∧
      terms' = front ++ FilterTerm.ofEntry defaults.sentinel key value :: back) := by
  obtain ⟨entries, larger, before, after, he, hl, flat, flat'⟩ := more
  have same : Request.groups { request with filters } = request.groups := rfl
  simp only [requestTerms, he, ok_bind, bind_eq_ok_iff, pure_eq] at h
  obtain ⟨parts, hp, maps, hm, h⟩ := h
  simp only [requestTerms, hl, same, hp, hm, ok_bind, pure_eq] at h'
  cases h
  cases h'
  exact ⟨rfl, boundsOnce_parseFilters _ _, parseFilters_more _ flat flat'⟩

/-- The conditions of a request are those of its filters and those of all else. -/
theorem compileConditions_eq_ok {plan : JoinPlan} {request : Request} {terms : List FilterTerm}
    {groups : List (List FilterTerm)} {conditions : List Condition}
    (h : compileConditions plan request terms groups = .ok conditions) :
    ∃ filters rest, compileFilters plan "" terms = .ok filters ∧
      compileConditions plan request [] groups = .ok rest ∧ conditions = filters ++ rest := by
  obtain ⟨filters, bracket, search, extra, hf, hb, hs, he, rfl⟩ := compileConditions_eq_ok_iff.1 h
  refine ⟨filters, _, hf,
    compileConditions_eq_ok_iff.2 ⟨[], bracket, search, extra, rfl, hb, hs, he, rfl⟩, ?_⟩
  simp only [List.nil_append, List.append_assoc]

/-- The conditions of a request with one more term are met by no more joined rows. -/
theorem met_conditions_of_more {plan : JoinPlan} {joined : JoinedRow} {request : Request}
    {front back : List FilterTerm} {term : FilterTerm} {groups : List (List FilterTerm)}
    {conditions others : List Condition} (once : BoundsOnce (front ++ term :: back))
    (compiled : compileConditions plan request (front ++ back) groups = .ok conditions)
    (compiled' : compileConditions plan request (front ++ term :: back) groups = .ok others)
    (days : ∀ other ∈ front ++ back, term.MergesDays other →
      ∀ field column, plan.resolve term.field = .ok (field, column) →
        KeepsDays field.column.type other.operator ∧
          field.column.type.Stores (joined.cell column))
    (met : Met joined others) : Met joined conditions := by
  obtain ⟨filters, rest, filters_compiled, rest_compiled, rfl⟩ := compileConditions_eq_ok compiled
  obtain ⟨filters', rest', filters_compiled', rest_compiled', rfl⟩ :=
    compileConditions_eq_ok compiled'
  rw [rest_compiled] at rest_compiled'
  cases rest_compiled'
  rw [met_append] at met ⊢
  exact ⟨met_of_more once filters_compiled filters_compiled' days met.1, met.2⟩

/-! ## Stored days and times -/

/-- A column that a plan resolves holds in a joined row what such columns store. -/
theorem stores_joined_cell {registry : Registry} {plan : JoinPlan} (hreg : plan.registry = registry)
    (planned : Planned registry plan.root plan.steps) {db : Database} {row : Row} {a : Assignment}
    (hrow : row ∈ db.rows plan.root.table) (follows : ∀ step ∈ plan.steps, a.Follows db row step)
    {path : String} {field : Field} {column : ColumnRef}
    (resolved : plan.resolve path = .ok (field, column))
    (stored : db.StoresTimes field.entity field.column) :
    field.column.type.Stores ((a.joined row plan.steps).cell column) := by
  have has := resolve_has resolved
  obtain ⟨of_root, rfl⟩ := JoinPlan.resolve_eq_ok resolved
  obtain ⟨hops, reached⟩ := Entity.resolve_eq_ok of_root
  rw [hreg, ← hops] at reached
  rw [a.joined_cell row has]
  cases assigned : a.rowAt row field.hops with
  | none => exact field.column.type.stores_null
  | some found =>
    exact stored found (Assignment.mem_rows planned hrow follows has reached assigned)

/-! ## Matching rows -/

/-- A row that matches with one more filter matches without it, unless the filter makes a range of
whole days that does not keep to a bound. -/
theorem matches_of_more_filters {defaults : Defaults} {registry : Registry} {db : Database}
    {entity : String} {request : Request} {filters : Value} {listing larger : Listing}
    {key : String} {value : Value}
    (compiled : compileListing defaults registry entity request = .ok listing)
    (compiled' : compileListing defaults registry entity { request with filters } = .ok larger)
    (more : AddsEntry key value request.filters filters)
    (days : request.KeepsBounds defaults registry listing.plan.root db key value) :
    larger.plan.root = listing.plan.root ∧
      ∀ row ∈ db.rows listing.plan.root.table, larger.Matches db row → listing.Matches db row := by
  obtain ⟨root, terms, groups, hget, -, ht, hp, hc, -⟩ := compileListing_eq_ok compiled
  obtain ⟨root', terms', groups', hget', -, ht', hp', hc', -⟩ := compileListing_eq_ok compiled'
  rw [hget] at hget'
  cases hget'
  obtain ⟨rfl, once, parts⟩ := requestTerms_more more ht ht'
  obtain ⟨hreg, hroot, planned⟩ := planRequest_root hp
  obtain ⟨hreg', hroot', planned'⟩ := planRequest_root hp'
  have roots : larger.plan.root = listing.plan.root := hroot'.trans hroot.symm
  have kept : ∀ term ∈ terms, term ∈ terms' := by
    rcases parts with rfl | ⟨front, back, rfl, rfl⟩
    · exact fun _ h => h
    · exact fun _ h => mem_more h
  -- the conditions of the smaller request are those that the larger plan would give
  have moved := compileConditions_plans hp hp' rfl rfl kept
  rw [hc] at moved
  have known : ∀ condition ∈ listing.conditions,
      condition.Over fun column => larger.plan.Has column ∧ listing.plan.Has column := by
    refine compileConditions_known (fun term h => ?_)
      (fun term h => ((planRequest_joins hp).1 term h).covers) moved.symm hc
    have of_larger : term ∈ terms' ++ groups'.flatten :=
      List.mem_append.2 ((List.mem_append.1 h).imp_left (kept term))
    exact ((planRequest_joins hp').1 term of_larger).covers
  refine ⟨roots, fun row hrow ⟨a, follows, met⟩ => ?_⟩
  have met_smaller : Met (a.joined row larger.plan.steps) listing.conditions := by
    rcases parts with rfl | ⟨front, back, rfl, rfl⟩
    · have same : listing.conditions = larger.conditions := Except.ok.inj (moved.trans hc')
      exact same ▸ met
    · refine met_conditions_of_more once moved.symm hc' ?_ met
      intro other ho merges field column resolved
      have of_root := (JoinPlan.resolve_eq_ok resolved).1
      rw [roots, hreg', ← merges.field] at of_root
      obtain ⟨keeps, stored⟩ := days _ _ ht other ho merges field of_root
      exact ⟨keeps, stores_joined_cell hreg' (hroot'.symm ▸ planned') (roots ▸ hrow) follows
        resolved stored⟩
  obtain ⟨b, follows', met', -⟩ := exists_met (hroot'.symm ▸ planned')
    (roots ▸ hroot.symm ▸ planned) known follows met_smaller
  exact ⟨b, follows', met'⟩

namespace Sample

/-- A pair of the middle of January. -/
def january : Database :=
  ⟨[("pairs", [[("left_id", .int 1), ("right_code", .text "x"), ("on_day", .text "2024-01-15")]])]⟩

theorem january_storesTimes : january.StoresTimes pairing (.plain "on_day" .date) := by
  intro row hr
  obtain rfl := List.mem_singleton.1 hr
  exact .inr ⟨⟨2024, 1, 15, by decide⟩, by decide +kernel⟩

/-- A widget stamped at noon of a day. -/
def noon : Database :=
  ⟨[("widgets", [[("id", .int 1), ("name", .text "noon"),
    ("stamped", .text "2024-01-15 12:00:00.000000")]])]⟩

end Sample

theorem matches_of_more_filters_january :
    let since : Request := { filters := .map [("on_day.gte", .text "2024-01-01")] }
    let between : Value :=
      .map [("on_day.gte", .text "2024-01-01"), ("on_day.lte", .text "2024-01-31")]
    ∃ listing larger, compileListing {} Sample.registry "pairing" since = .ok listing ∧
      compileListing {} Sample.registry "pairing" { since with filters := between } = .ok larger ∧
      AddsEntry "on_day.lte" (.text "2024-01-31") since.filters between ∧
      since.KeepsBounds {} Sample.registry listing.plan.root Sample.january "on_day.lte"
        (.text "2024-01-31") ∧
      larger.plan.root = listing.plan.root ∧
      ∀ row ∈ Sample.january.rows listing.plan.root.table,
        larger.Matches Sample.january row → listing.Matches Sample.january row := by
  intro since between
  obtain ⟨listing, compiled, -⟩ := @exists_ok_of_any _ _
    (compileListing {} Sample.registry "pairing" since)
    (fun _ => true) (by decide +kernel)
  obtain ⟨larger, compiled', -⟩ := @exists_ok_of_any _ _
    (compileListing {} Sample.registry "pairing" { since with filters := between })
    (fun _ => true) (by decide +kernel)
  have more : AddsEntry "on_day.lte" (.text "2024-01-31") since.filters between :=
    ⟨_, _, [("on_day.gte", .text "2024-01-01")], [], rfl, rfl, rfl, rfl⟩
  have root : listing.plan.root = Sample.pairing := by
    obtain ⟨root, terms, groups, hget, -, -, hp, -⟩ := compileListing_eq_ok compiled
    cases hget
    exact (planRequest_root hp).2.1
  have days : since.KeepsBounds {} Sample.registry listing.plan.root Sample.january "on_day.lte"
      (.text "2024-01-31") := by
    intro terms groups _ other _ merges field resolved
    have day : Sample.pairing.resolve Sample.registry "on_day" =
      .ok ⟨"on_day", [], .plain "on_day" .date, Sample.pairing⟩ := rfl
    rw [root, merges.field] at resolved
    cases day.symm.trans resolved
    exact ⟨.inl rfl, Sample.january_storesTimes⟩
  exact ⟨listing, larger, compiled, compiled', more, days,
    matches_of_more_filters compiled compiled' more days⟩

/-- Up to the first instant of a day there is no widget, but from a day before up to that day there
is one. -/
theorem widget_matches_whole_day :
    let upTo : Request := { filters := .map [("stamped.lte", .text "2024-01-15")] }
    let between : Value :=
      .map [("stamped.lte", .text "2024-01-15"), ("stamped.gte", .text "2024-01-01")]
    AddsEntry "stamped.gte" (.text "2024-01-01") upTo.filters between ∧
      ∃ listing larger, compileListing {} Sample.registry "widget" upTo = .ok listing ∧
        compileListing {} Sample.registry "widget" { upTo with filters := between } = .ok larger ∧
        ∃ row ∈ Sample.noon.rows larger.plan.root.table,
          larger.Matches Sample.noon row ∧ ¬ listing.Matches Sample.noon row := by
  intro upTo between
  refine ⟨⟨_, _, [("stamped.lte", .text "2024-01-15")], [], rfl, rfl, rfl, rfl⟩, ?_⟩
  obtain ⟨listing, compiled, none_matches⟩ := @exists_ok_of_any _ _
    (compileListing {} Sample.registry "widget" upTo)
    (fun listing => (listing.matching Sample.noon).isEmpty &&
      listing.plan.root.table == "widgets") (by decide +kernel)
  obtain ⟨larger, compiled', one_matches⟩ := @exists_ok_of_any _ _
    (compileListing {} Sample.registry "widget" { upTo with filters := between })
    (fun larger => !(larger.matching Sample.noon).isEmpty &&
      larger.plan.root.table == "widgets") (by decide +kernel)
  simp only [Bool.and_eq_true, beq_iff_eq] at none_matches one_matches
  obtain ⟨row, hr⟩ := List.isEmpty_eq_false_iff_exists_mem.1 (by simpa using one_matches.1)
  obtain ⟨hrow, larger_matches⟩ :=
    (Listing.mem_matching_iff (compileListing_planned compiled')).1 hr
  refine ⟨listing, larger, compiled, compiled', row, hrow, larger_matches,
    fun smaller_matches => ?_⟩
  have found := (Listing.mem_matching_iff (compileListing_planned compiled)).2
    ⟨by rwa [none_matches.2, ← one_matches.2], smaller_matches⟩
  rw [List.isEmpty_iff.1 none_matches.1] at found
  cases found

end RecordListing
