import RecordListing.Proofs.Query.Compilation
import RecordListing.Proofs.Store.Meaning

/-!
# Relations that are loaded

The relations that a request loads are joined like those of its filters, so that they multiply the
joined rows. But what a row meets and what it is sorted by depends on the columns that conditions
and sorting test alone (`Alike.meets`). So requests that differ in what they load are refused alike
(`compileListing_relations`) and have the same answer (`runListing_relations`).
-/

set_option autoImplicit false

namespace RecordListing

open JoinPlan Outcome

/-! ## Compiling -/

/-- Whether every run of relations that a request loads can be followed. -/
def Request.LoadsValid (request : Request) (registry : Registry) (root : Entity) : Prop :=
  ∃ paths, request.relations.paths = .ok paths ∧
    ∀ path ∈ paths, path ≠ "" → ∃ steps, stepsOf registry root path = .ok steps

/-- Two listings that differ in what they join alone, and join the columns that they test. -/
structure Listing.Alike (registry : Registry) (listing other : Listing) : Prop where
  root : listing.plan.root = other.plan.root
  window : listing.window = other.window
  conditions : listing.conditions = other.conditions
  sorting : listing.sorting = other.sorting
  planned : Planned registry listing.plan.root listing.plan.steps
  planned' : Planned registry other.plan.root other.plan.steps
  known : ∀ condition ∈ listing.conditions,
    condition.Over fun column => listing.plan.Has column ∧ other.plan.Has column
  known_sort : listing.plan.Has listing.sorting.column ∧ other.plan.Has listing.sorting.column

theorem JoinPlan.firstFault?_append {registry : Registry} {root : Entity}
    {paths others : List String}
    (h : ∀ path ∈ paths, path ≠ "" → ∃ steps, stepsOf registry root path = .ok steps) :
    firstFault? registry root (paths ++ others) = firstFault? registry root others := by
  induction paths with
  | nil => rfl
  | cons path paths ih =>
    have rest := ih fun p hp => h p (List.mem_cons_of_mem _ hp)
    simp only [List.cons_append, firstFault?]
    split
    · exact rest
    · rename_i ne
      obtain ⟨steps, hs⟩ := h path List.mem_cons_self (by simpa using ne)
      rw [hs]
      exact rest

section
variable {defaults : Defaults} {registry : Registry} {entity : String} {root : Entity}
    {request : Request} {relations : Value}

theorem planRequest_relations (valid : request.LoadsValid registry root)
    (valid' : ({ request with relations } : Request).LoadsValid registry root)
    (terms : List FilterTerm) (groups : List (List FilterTerm)) :
    (∃ failure, planRequest registry root request terms groups = .error failure ∧
        planRequest registry root { request with relations } terms groups = .error failure) ∨
      ∃ plan other, planRequest registry root request terms groups = .ok plan ∧
        planRequest registry root { request with relations } terms groups = .ok other := by
  obtain ⟨paths, hp, hv⟩ := valid
  obtain ⟨paths', hp', hv'⟩ := valid'
  have same : searchRelations root { request with relations } = searchRelations root request := rfl
  simp only [planRequest, requiredPaths, hp, hp', same, ok_bind, build_eq]
  cases readSortField request.sortBy with
  | error failure => exact .inl ⟨failure, rfl, rfl⟩
  | ok field =>
    cases searchRelations root request with
    | error failure => exact .inl ⟨failure, rfl, rfl⟩
    | ok optional =>
      simp only [ok_bind, pure_eq, firstFault?_append hv, firstFault?_append hv']
      cases firstFault? registry root
        (relationPaths root ((terms ++ groups.flatten).map (·.field) ++ [field])) with
      | some reason => exact .inl ⟨_, rfl, rfl⟩
      | none => exact .inr ⟨_, _, rfl, rfl⟩

/-- Plans of one request compile it alike, whatever else they join. -/
theorem compile_alike {plan other : JoinPlan} {terms : List FilterTerm}
    {groups : List (List FilterTerm)}
    (hp : planRequest registry root request terms groups = .ok plan)
    (hp' : planRequest registry root { request with relations } terms groups = .ok other) :
    compileConditions plan request terms groups = compileConditions other request terms groups ∧
      compileSorting plan request.sortBy request.sortOrder defaults.sortField =
        compileSorting other request.sortBy request.sortOrder defaults.sortField := by
  obtain ⟨hreg, hroot, -⟩ := planRequest_root hp
  obtain ⟨hreg', hroot', -⟩ := planRequest_root hp'
  refine ⟨compileConditions_plans hp hp' rfl rfl fun _ h => h,
    compileSorting_congr (hroot.trans hroot'.symm) (fun field hf => ?_) _ _⟩
  exact JoinPlan.resolve_congr ((planRequest_joins hp).2.1 field hf).covers
    ((planRequest_joins hp').2.1 field hf).covers (hroot.trans hroot'.symm) (hreg.trans hreg'.symm)

/-- Requests that differ in what they load are refused alike, or are listings that differ in what
they join alone. -/
theorem compileListing_relations (found : registry.find? entity = some root)
    (valid : request.LoadsValid registry root)
    (valid' : ({ request with relations } : Request).LoadsValid registry root) :
    (∃ failure, compileListing defaults registry entity request = .error failure ∧
        compileListing defaults registry entity { request with relations } = .error failure) ∨
      ∃ listing other, compileListing defaults registry entity request = .ok listing ∧
        compileListing defaults registry entity { request with relations } = .ok other ∧
        listing.plan.root = root ∧ listing.Alike registry other := by
  have get : registry.get entity = .ok root := by simp [Registry.get, found]
  have terms' : requestTerms defaults { request with relations } = requestTerms defaults request :=
    rfl
  simp only [compileListing, get, terms', ok_bind]
  cases readWindow request.page request.limit defaults.pageSize with
  | error failure => exact .inl ⟨failure, rfl, rfl⟩
  | ok window =>
    cases requestTerms defaults request with
    | error failure => exact .inl ⟨failure, rfl, rfl⟩
    | ok parts =>
      obtain ⟨terms, groups⟩ := parts
      simp only [ok_bind]
      rcases planRequest_relations valid valid' terms groups with
        ⟨failure, hp, hp'⟩ | ⟨plan, other, hp, hp'⟩
      · rw [hp, hp']
        exact .inl ⟨failure, rfl, rfl⟩
      · obtain ⟨conditions', sorting'⟩ := @compile_alike defaults _ _ _ _ _ _ _ _ hp hp'
        obtain ⟨-, hroot, planned⟩ := planRequest_root hp
        obtain ⟨-, hroot', planned'⟩ := planRequest_root hp'
        obtain ⟨fields, sort, -⟩ := planRequest_joins hp
        obtain ⟨fields', sort', -⟩ := planRequest_joins hp'
        have same : compileConditions other { request with relations } terms groups =
            compileConditions other request terms groups := rfl
        rw [hp, hp']
        simp only [ok_bind, same, ← conditions', ← sorting']
        cases hc : compileConditions plan request terms groups with
        | error failure => exact .inl ⟨failure, rfl, rfl⟩
        | ok conditions =>
          cases hs : compileSorting plan request.sortBy request.sortOrder defaults.sortField with
          | error failure => exact .inl ⟨failure, rfl, rfl⟩
          | ok sorting =>
            have known := compileConditions_known (fun t ht => (fields t ht).covers)
              (fun t ht => (fields' t ht).covers) hc (conditions' ▸ hc)
            have has := (compileSorting_sound (fun f hf => (sort f hf).covers) _ _).ok hs
            have has' := (compileSorting_sound (fun f hf => (sort' f hf).covers) _ _).ok
              (sorting' ▸ hs)
            exact .inr ⟨_, _, rfl, rfl, hroot, hroot.trans hroot'.symm, rfl, rfl, rfl,
              hroot.symm ▸ planned, hroot'.symm ▸ planned', known, has, has'⟩

end

/-! ## Running -/

namespace Listing

section
variable {registry : Registry} {listing other : Listing}

theorem Alike.symm (h : listing.Alike registry other) : other.Alike registry listing where
  root := h.root.symm
  window := h.window.symm
  conditions := h.conditions.symm
  sorting := h.sorting.symm
  planned := h.planned'
  planned' := h.planned
  known := fun c hc => (h.known c (h.conditions ▸ hc)).imp fun _ => And.symm
  known_sort := h.sorting ▸ h.known_sort.symm

/-- An assignment that meets the conditions of one listing can be carried over to the other one. -/
theorem Alike.meets (h : listing.Alike registry other) {db : Database} {row : Row} {a : Assignment}
    (meets : listing.Meets db row a) :
    ∃ b, other.Meets db row b ∧
      (b.joined row other.plan.steps).cell listing.sorting.column =
        (a.joined row listing.plan.steps).cell listing.sorting.column := by
  obtain ⟨b, follows, met, same⟩ :=
    exists_met h.planned (h.root ▸ h.planned') h.known meets.follows meets.met
  exact ⟨b, ⟨follows, h.conditions ▸ met⟩, same _ h.known_sort.1 h.known_sort.2⟩

theorem Alike.matches_iff (h : listing.Alike registry other) {db : Database} {row : Row} :
    listing.Matches db row ↔ other.Matches db row :=
  ⟨fun ⟨_, m⟩ => (h.meets m).imp fun _ => And.left,
    fun ⟨_, m⟩ => (h.symm.meets m).imp fun _ => And.left⟩

theorem Alike.reaches (h : listing.Alike registry other) {db : Database} {row : Row} {cell : Cell}
    (reached : listing.Reaches db row cell) : other.Reaches db row cell := by
  obtain ⟨a, meets, rfl⟩ := reached
  obtain ⟨b, meets', same⟩ := h.meets meets
  exact ⟨b, meets', by rw [← h.sorting, same]⟩

theorem Alike.sortsBy (h : listing.Alike registry other) {db : Database} {row : Row} {key : Cell}
    (sorts : listing.SortsBy db row key) : other.SortsBy db row key where
  reached := sorts.reached.imp_right h.reaches
  first := fun cell hc hn => h.sorting ▸ sorts.first cell (h.symm.reaches hc) hn

theorem Alike.lists (h : listing.Alike registry other) {db : Database} {rows : List Row}
    (lists : listing.Lists db rows) : other.Lists db rows where
  nodup := lists.nodup
  mem_iff := fun row => by rw [lists.mem_iff, h.root, h.matches_iff]
  ordered := lists.ordered.imp fun ⟨x, y, hx, hy, before⟩ =>
    ⟨x, y, h.sortsBy hx, h.sortsBy hy, by rw [← h.root, ← h.sorting]; exact before⟩

/-! ### Answers -/

theorem Alike.sorted_eq (h : listing.Alike registry other) {db : Database}
    (distinct : db.KeysDistinct listing.plan.root) : listing.sorted db = other.sorted db :=
  (h.lists (lists_sorted h.planned distinct)).unique
    (lists_sorted h.planned' (h.root ▸ distinct))

/-- Two such listings have one answer, if the database takes their statements alike. -/
theorem Alike.run_eq (h : listing.Alike registry other) {db : Database}
    (distinct : db.KeysDistinct listing.plan.root)
    (checks : listing.checkConditions = other.checkConditions) :
    listing.run db = other.run db := by
  have window : listing.checkWindow = other.checkWindow := by simp only [checkWindow, h.window]
  cases bound : listing.checkConditions with
  | error failure => simp only [run, bound, ← checks]
  | ok _ =>
    cases counted : listing.checkWindow with
    | error failure =>
      simp only [run, bound, ← checks, counted, ← window]
    | ok _ =>
      rw [Listing.run_eq h.planned distinct bound counted,
        Listing.run_eq h.planned' (h.root ▸ distinct) (checks ▸ bound) (window ▸ counted)]
      simp only [pageRows, h.sorted_eq distinct, h.window, h.root]

/-- What comes of a statement that joins too many tables. -/
def tooManyTables {α : Type} : Outcome α :=
  crashWith ⟨.other "OperationalError", "at most 64 tables in a join"⟩

theorem checkTables_cases (plan : JoinPlan) :
    plan.checkTables = .ok () ∨ plan.checkTables = tooManyTables := by
  unfold JoinPlan.checkTables
  split
  · exact .inl rfl
  · exact .inr rfl

theorem run_error {db : Database} {failure : Failure}
    (h : listing.checkConditions = .error failure) : (listing.run db).result = .error failure := by
  simp only [run, h]

theorem Alike.result_eq (h : listing.Alike registry other) {db : Database}
    (distinct : db.KeysDistinct listing.plan.root) :
    (listing.run db).result = (other.run db).result ∨
      (listing.run db).result = tooManyTables ∨ (other.run db).result = tooManyTables := by
  have binds : listing.binds = other.binds := by simp only [Listing.binds, h.conditions]
  cases fit : other.binds.forM fun bind => bind.1.checkFit bind.2 with
  | error failure =>
    refine .inl (congrArg _ (h.run_eq distinct ?_))
    simp only [checkConditions, binds, fit, error_bind]
  | ok _ =>
    rcases checkTables_cases listing.plan with few | many
    · rcases checkTables_cases other.plan with few' | many'
      · refine .inl (congrArg _ (h.run_eq distinct ?_))
        simp only [checkConditions, binds, fit, few, few', ok_bind]
      · refine .inr (.inr (run_error ?_))
        simp only [checkConditions, fit, many', ok_bind]
        rfl
    · refine .inr (.inl (run_error ?_))
      simp only [checkConditions, binds, fit, many, ok_bind]
      rfl

end

end Listing

/-- Requests that differ in the valid relations that they load have the same answer, unless one of
them joins more tables than the database takes. -/
theorem runListing_relations {defaults : Defaults} {registry : Registry} {db : Database}
    {entity : String} {root : Entity} {request : Request} {relations : Value}
    (found : registry.find? entity = some root) (distinct : db.KeysDistinct root)
    (valid : request.LoadsValid registry root)
    (valid' : ({ request with relations } : Request).LoadsValid registry root) :
    let result := (runListing defaults registry db entity request).result
    let result' := (runListing defaults registry db entity { request with relations }).result
    result = result' ∨ result = Listing.tooManyTables ∨ result' = Listing.tooManyTables := by
  dsimp only
  rcases @compileListing_relations defaults _ _ _ _ _ found valid valid' with
    ⟨failure, hc, hc'⟩ | ⟨listing, other, hc, hc', hroot, alike⟩
  · left
    simp only [runListing, hc, hc']
  · simp only [runListing, hc, hc']
    exact alike.result_eq (hroot.symm ▸ distinct)

theorem runListing_relations_parts :
    let request : Request := { Sample.partsRequest with relations := .list [.text "widget"] }
    let relations : Value :=
      .list [.text "widget.children.children", .text "widget.parent", .text "widget.children"]
    let result := (runListing {} Sample.registry Sample.workshop "pairing" request).result
    let result' := (runListing {} Sample.registry Sample.workshop "pairing"
      { request with relations }).result
    result = result' ∨ result = Listing.tooManyTables ∨ result' = Listing.tooManyTables := by
  have distinct : Sample.workshop.KeysDistinct Sample.pairing := by decide +kernel
  have one : firstFault? Sample.registry Sample.pairing ["widget"] = none :=
    Option.isNone_iff_eq_none.1 (by decide +kernel)
  have three : firstFault? Sample.registry Sample.pairing
      ["widget.children.children", "widget.parent", "widget.children"] = none :=
    Option.isNone_iff_eq_none.1 (by decide +kernel)
  exact runListing_relations rfl distinct
    ⟨_, rfl, fun _ hm ne => firstFault?_eq_none one hm ne⟩
    ⟨_, rfl, fun _ hm ne => firstFault?_eq_none three hm ne⟩

end RecordListing
