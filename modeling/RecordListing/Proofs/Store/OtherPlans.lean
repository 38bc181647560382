import RecordListing.Proofs.Query.Unnamed
import RecordListing.Proofs.Store.Loading

/-!
# Matching along other plans

A row matches a listing or not whatever else is joined: along any plan that covers all of a request,
the conditions of the request are the same, and some assignment meets them if one does along the
plan of the request itself (`matches_iff_admits`). So listings of one entity can be compared on one
plan that covers all of them. If they have the same conditions but for the names of parameters, they
have the same answer (`answersLike_of_unnamed`).
-/

set_option autoImplicit false

namespace RecordListing

open JoinPlan Outcome

/-- Whether some assignment along the joins of a plan meets conditions. -/
def JoinPlan.Admits (plan : JoinPlan) (db : Database) (row : Row) (conditions : List Condition) :
    Prop :=
  ∃ a : Assignment, (∀ step ∈ plan.steps, a.Follows db row step) ∧
    Met (a.joined row plan.steps) conditions

section
variable {defaults : Defaults} {registry : Registry} {root : Entity} {request : Request}
    {terms : List FilterTerm} {groups : List (List FilterTerm)} {listing : Listing}
    {other : JoinPlan}
    (planned : planRequest registry root request terms groups = .ok listing.plan)
    (compiled : compileConditions listing.plan request terms groups = .ok listing.conditions)
    (hother : other.registry = registry ∧ other.root = root ∧ Planned registry root other.steps)
    (covers : other.CoversAll request terms groups)
include planned compiled hother covers

/-- The conditions of a request are the same along any plan that covers it. -/
theorem compileConditions_other :
    compileConditions other request terms groups = .ok listing.conditions := by
  obtain ⟨hreg, hroot, -⟩ := planRequest_root planned
  rw [← compiled]
  exact compileConditions_covered (hother.2.1.trans hroot.symm) (hother.1.trans hreg.symm) covers
    (planRequest_coversAll planned)

/-- A row matches along any plan that covers the request if it does along that of the request. -/
theorem matches_iff_admits {db : Database} {row : Row} :
    listing.Matches db row ↔ other.Admits db row listing.conditions := by
  obtain ⟨-, -, steps⟩ := planRequest_root planned
  have own := planRequest_coversAll planned
  have compiled' := compileConditions_other planned compiled hother covers
  have known := compileConditions_known own.fields covers.fields compiled compiled'
  constructor
  · rintro ⟨a, follows, met⟩
    obtain ⟨b, follows', met', -⟩ := exists_met steps hother.2.2 known follows met
    exact ⟨b, follows', met'⟩
  · rintro ⟨a, follows, met⟩
    obtain ⟨b, follows', met', -⟩ := exists_met hother.2.2 steps
      (fun condition hc => (known condition hc).imp fun _ => And.symm) follows met
    exact ⟨b, follows', met'⟩

end

/-! ## Names of parameters -/

theorem meetsAll_unnamed (conditions : List Condition) (joined : JoinedRow) :
    meetsAll (conditions.map Condition.unnamed) joined = meetsAll conditions joined := by
  simp only [meetsAll, List.all_map, Function.comp_def, Condition.truth_unnamed]

theorem Condition.binds_unnamed : ∀ condition : Condition, condition.unnamed.binds = condition.binds
  | .never => rfl
  | .test t => by cases t <;> rfl
  | .both left right | .either left right => by
    simp only [unnamed, binds, binds_unnamed left, binds_unnamed right]

theorem Condition.over_unnamed {known : ColumnRef → Prop} :
    ∀ {condition : Condition}, condition.unnamed.Over known ↔ condition.Over known
  | .never => Iff.rfl
  | .test t => by cases t <;> rfl
  | .both _ _ | .either _ _ => and_congr over_unnamed over_unnamed

theorem isHopeless_unnamed (conditions : List Condition) :
    Sql.isHopeless (conditions.map Condition.unnamed) = Sql.isHopeless conditions := by
  simp only [Sql.isHopeless, List.any_map]
  refine congrArg conditions.any (funext fun condition => ?_)
  cases condition <;> rfl

namespace Listing

/-- The listing without the names of its parameters. -/
def unnamed (listing : Listing) : Listing :=
  { listing with conditions := listing.conditions.map Condition.unnamed }

theorem matching_unnamed (listing : Listing) (db : Database) :
    listing.unnamed.matching db = listing.matching db := by
  simp only [matching, ways, unnamed, funext (meetsAll_unnamed listing.conditions)]

/-- The names of parameters have no part in what a listing comes to. -/
theorem run_unnamed (listing : Listing) (db : Database) :
    listing.unnamed.run db = listing.run db := by
  have selected : listing.unnamed.selected db = listing.selected db := by
    simp only [Listing.selected, unnamed, funext (meetsAll_unnamed listing.conditions)]
  have groups : listing.unnamed.groups db = listing.groups db := by
    simp only [Listing.groups, selected]
    rfl
  have counted : listing.unnamed.countKeys db = listing.countKeys db := by
    simp only [countKeys, groups]
  have keys : listing.unnamed.pageKeys db = listing.pageKeys db := by
    simp only [pageKeys, sortedKeys, groups]
    rfl
  have read : listing.unnamed.readRows db = listing.readRows db := by
    simp only [readRows, keys]
    rfl
  have binds : listing.unnamed.binds = listing.binds := by
    simp only [Listing.binds, unnamed, isHopeless_unnamed, List.flatMap_map,
      Condition.binds_unnamed]
  have conditions : listing.unnamed.checkConditions = listing.checkConditions := by
    simp only [checkConditions, binds]
    rfl
  simp only [run, conditions, counted, read]
  rfl

/-- Whether two listings have the same rows, and the same answer unless one of them joins more
tables than the database takes. -/
def AnswersLike (listing other : Listing) (db : Database) : Prop :=
  listing.matching db = other.matching db ∧
    (db.KeysDistinct listing.plan.root →
      (listing.run db).result = (other.run db).result ∨
        (listing.run db).result = tooManyTables ∨ (other.run db).result = tooManyTables)

theorem Alike.answersLike {registry : Registry} {listing other : Listing}
    (h : listing.unnamed.Alike registry other.unnamed) (db : Database) :
    listing.AnswersLike other db := by
  constructor
  · rw [← matching_unnamed listing, ← matching_unnamed other]
    have rows (listing : Listing) (planned : Planned registry listing.plan.root listing.plan.steps)
        (row : Row) : (!(listing.ways db row).isEmpty) = true ↔ listing.Matches db row := by
      rw [Bool.not_eq_true', List.isEmpty_eq_false_iff_exists_mem]
      simp only [mem_ways_iff planned]
      exact ⟨fun ⟨_, a, meets, _⟩ => ⟨a, meets⟩, fun ⟨a, meets⟩ => ⟨_, a, meets, rfl⟩⟩
    unfold matching
    rw [h.root]
    refine List.filter_congr fun row _ => Bool.eq_iff_iff.2 ?_
    rw [rows _ h.planned, rows _ h.planned', h.matches_iff]
  · intro distinct
    have results := h.result_eq distinct
    simpa only [run_unnamed] using results

end Listing

/-! ## Requests that are sorted and paged alike -/

/-- Whether two requests show the same page of rows in the same order. -/
structure Request.PagesLike (request other : Request) : Prop where
  page : request.page = other.page
  limit : request.limit = other.limit
  sortBy : request.sortBy = other.sortBy
  sortOrder : request.sortOrder = other.sortOrder

section
variable {defaults : Defaults} {registry : Registry} {entity : String} {request request' : Request}
    {listing other : Listing}

theorem compileSorting_plans {root : Entity} {terms terms' : List FilterTerm}
    {groups groups' : List (List FilterTerm)} {plan other : JoinPlan}
    (h : planRequest registry root request terms groups = .ok plan)
    (h' : planRequest registry root request' terms' groups' = .ok other)
    (same : request.sortBy = request'.sortBy) (sortOrder : Value) (defaultField : Option String) :
    compileSorting plan request.sortBy sortOrder defaultField =
      compileSorting other request.sortBy sortOrder defaultField := by
  obtain ⟨hreg, hroot, -⟩ := planRequest_root h
  obtain ⟨hreg', hroot', -⟩ := planRequest_root h'
  exact compileSorting_congr (hroot.trans hroot'.symm) (fun field hf => JoinPlan.resolve_congr
    ((planRequest_joins h).2.1 field hf).covers
    ((planRequest_joins h').2.1 field (same ▸ hf)).covers (hroot.trans hroot'.symm)
    (hreg.trans hreg'.symm)) _ _

/-- A listing tests columns, and is sorted by one, that its plan has joined. -/
theorem compileListing_has
    (compiled : compileListing defaults registry entity request = .ok listing) :
    (∀ condition ∈ listing.unnamed.conditions, condition.Over listing.plan.Has) ∧
      listing.plan.Has listing.sorting.column := by
  obtain ⟨root, terms, groups, -, -, -, hp, hc, hs⟩ := compileListing_eq_ok compiled
  obtain ⟨fields, sort, -⟩ := planRequest_joins hp
  refine ⟨fun condition hm => ?_,
    (compileSorting_sound (fun field hf => (sort field hf).covers) _ _).ok hs⟩
  obtain ⟨named, hn, rfl⟩ := List.mem_map.1 hm
  exact Condition.over_unnamed.2
    ((compileConditions_sound fun term ht => (fields term ht).covers).ok hc named hn)

/-- Listings whose conditions differ in the names of parameters alone have the same answer, whatever
they join. -/
theorem answersLike_of_unnamed (pages : request.PagesLike request')
    (compiled : compileListing defaults registry entity request = .ok listing)
    (compiled' : compileListing defaults registry entity request' = .ok other)
    (conditions :
      listing.conditions.map Condition.unnamed = other.conditions.map Condition.unnamed)
    (db : Database) : listing.AnswersLike other db := by
  obtain ⟨root, terms, groups, hget, hw, -, hp, hc, hs⟩ := compileListing_eq_ok compiled
  obtain ⟨root', terms', groups', hget', hw', -, hp', hc', hs'⟩ := compileListing_eq_ok compiled'
  cases hget.symm.trans hget'
  obtain ⟨-, hroot, planned⟩ := planRequest_root hp
  obtain ⟨-, hroot', planned'⟩ := planRequest_root hp'
  have window : listing.window = other.window := by
    rw [pages.page, pages.limit] at hw
    exact Except.ok.inj (hw.symm.trans hw')
  have sorting : listing.sorting = other.sorting := by
    rw [← pages.sortBy, ← pages.sortOrder, ← compileSorting_plans hp hp' pages.sortBy] at hs'
    exact Except.ok.inj (hs.symm.trans hs')
  have same : listing.unnamed.conditions = other.unnamed.conditions := conditions
  obtain ⟨tested, sort_has⟩ := compileListing_has compiled
  obtain ⟨tested', sort_has'⟩ := compileListing_has compiled'
  have alike : listing.unnamed.Alike registry other.unnamed :=
    ⟨hroot.trans hroot'.symm, window, same, sorting, hroot.symm ▸ planned, hroot'.symm ▸ planned',
      fun condition hm => (tested condition hm).and (tested' condition (same ▸ hm)), sort_has,
      sorting ▸ sort_has'⟩
  exact alike.answersLike db

end

end RecordListing
