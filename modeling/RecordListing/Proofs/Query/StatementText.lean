import RecordListing.Proofs.Query.Coverage
import RecordListing.Proofs.Query.SearchMeaning
import RecordListing.Proofs.Query.ValueShape
import RecordListing.Schema.Sample

/-!
# The text of a statement does not depend on values

Two requests that differ in their page and in the values of filters and search have the same
statements but for the values that are bound, if each value has the shape of the other one
(`text_of_shape`).
-/

set_option autoImplicit false

namespace RecordListing

open Outcome

/-! ## Entries -/

/-- What an entry of a filter map shows. -/
structure EntryOutline where
  key : String
  /-- Whether the value stands for an absent one. -/
  sentinel : Bool
  shape : ValueShape
deriving DecidableEq

def entryOutline (sentinel : Option String) (entry : String × Value) : EntryOutline :=
  ⟨entry.1, isSentinel sentinel entry.2, entry.2.shape (splitKey entry.1).2⟩

/-- What a filter map shows, without nesting. -/
def entryOutlines (sentinel : Option String) (entries : List (String × Value)) :
    List EntryOutline :=
  (flattenFilters entries).map (entryOutline sentinel)

theorem map_eq_of_map_eq {α β γ : Type} {f : α → β} {g : α → γ} {xs ys : List α}
    (h : xs.map f = ys.map f) (hg : ∀ x y, f x = f y → g x = g y) : xs.map g = ys.map g := by
  induction xs generalizing ys with
  | nil =>
    obtain rfl := List.map_eq_nil_iff.1 h.symm
    rfl
  | cons x xs ih =>
    cases ys with
    | nil => cases h
    | cons y ys =>
      obtain ⟨head, tail⟩ := List.cons.inj h
      rw [List.map_cons, List.map_cons, hg x y head, ih tail]

theorem outline_ofEntry {sentinel : Option String} {entry other : String × Value}
    (h : entryOutline sentinel entry = entryOutline sentinel other) :
    (FilterTerm.ofEntry sentinel entry.1 entry.2).outline =
      (FilterTerm.ofEntry sentinel other.1 other.2).outline := by
  obtain ⟨key, value⟩ := entry
  obtain ⟨key', value'⟩ := other
  obtain ⟨rfl, sentinels, shapes⟩ := EntryOutline.mk.inj h
  simp only [FilterTerm.ofEntry, sentinels]
  split
  · rfl
  · exact congrArg (TermOutline.mk _ _) shapes

theorem parseFilters_congr {sentinel : Option String} {entries others : List (String × Value)}
    (h : entryOutlines sentinel entries = entryOutlines sentinel others) :
    (parseFilters sentinel entries).map FilterTerm.outline =
      (parseFilters sentinel others).map FilterTerm.outline := by
  have all : ((flattenFilters entries).map fun entry =>
        FilterTerm.ofEntry sentinel entry.1 entry.2).map FilterTerm.outline =
      ((flattenFilters others).map fun entry =>
        FilterTerm.ofEntry sentinel entry.1 entry.2).map FilterTerm.outline := by
    rw [List.map_map, List.map_map]
    exact map_eq_of_map_eq h fun _ _ => outline_ofEntry
  have kept := map_outline_filter fun outline => !isBlockedField outline.field
  exact (kept _).trans (all ▸ (kept _).symm)

/-! ## Requests -/

/-- What the filters and the groups of a request show. -/
def Request.outlines (request : Request) (defaults : Defaults) :
    Outcome (List EntryOutline × List (List EntryOutline)) := do
  let filters ← filterEntries request.filters
  let groups ← (← request.groups).mapM filterEntries
  return (entryOutlines defaults.sentinel filters, groups.map (entryOutlines defaults.sentinel))

/-- Which of the listed fields can be searched for the term of a request, if it has one. -/
def Request.searchShape (request : Request) (registry : Registry) (root : Entity) :
    Option (List Bool) :=
  (searchTerm? request.search).map fun term =>
    (request.searchFields.paths.toOption.getD []).map (root.canSearch registry term)

/-- Whether two requests differ in their page and in values of the same shape alone. -/
structure Request.SameShape (defaults : Defaults) (registry : Registry) (root : Entity)
    (request other : Request) : Prop where
  relations : request.relations = other.relations
  sortBy : request.sortBy = other.sortBy
  sortOrder : request.sortOrder = other.sortOrder
  withDeleted : request.withDeleted = other.withDeleted
  extraConditions : request.extraConditions = other.extraConditions
  searchFields : request.searchFields = other.searchFields
  outlines : request.outlines defaults = other.outlines defaults
  searchShape : request.searchShape registry root = other.searchShape registry root

theorem requestTerms_congr {defaults : Defaults} {request other : Request}
    (h : request.outlines defaults = other.outlines defaults)
    {terms terms' : List FilterTerm} {groups groups' : List (List FilterTerm)}
    (ht : requestTerms defaults request = .ok (terms, groups))
    (ht' : requestTerms defaults other = .ok (terms', groups')) :
    terms.map FilterTerm.outline = terms'.map FilterTerm.outline ∧
      groups.map (List.map FilterTerm.outline) = groups'.map (List.map FilterTerm.outline) := by
  simp only [requestTerms, bind_eq_ok_iff, pure_eq, Except.ok.injEq, Prod.mk.injEq] at ht ht'
  obtain ⟨entries, he, values, hv, maps, hm, rfl, rfl⟩ := ht
  obtain ⟨entries', he', values', hv', maps', hm', rfl, rfl⟩ := ht'
  simp only [Request.outlines, he, hv, hm, he', hv', hm', ok_bind, pure_eq, Except.ok.injEq,
    Prod.mk.injEq] at h
  refine ⟨parseFilters_congr h.1, ?_⟩
  rw [List.map_map, List.map_map]
  exact map_eq_of_map_eq h.2 fun _ _ => parseFilters_congr

/-! ## Search -/

section
variable {plan : JoinPlan} {term term' path : String} {number : Nat}

theorem searchField_emptied {column : ColumnRef} {condition : Condition}
    (h : searchField term path number column = .ok (some condition)) :
    condition.emptied =
      let name := bindName searchSpace number path ""
      let type := column.column.type
      if type.kind = .choice ∨ type.kind.isNumber then
        .test (.compare column .eq ⟨name, .null, type⟩)
      else .test (.like column true true ⟨name, .null, .text⟩) := by
  unfold searchField at h
  dsimp only at h ⊢
  split at h
  · rename_i compared
    simp only [bind_eq_ok_iff, pure_eq, Except.ok.injEq, Option.map_eq_some_iff] at h
    obtain ⟨_, -, value, -, rfl⟩ := h
    rw [if_pos compared]
    rfl
  · rename_i held
    cases h
    rw [if_neg held]
    rfl

theorem searchField_agree {column : ColumnRef}
    (same : column.column.type.takes term = column.column.type.takes term') :
    Agree (Option.map Condition.emptied) (searchField term path number column)
      (searchField term' path number column) := by
  intro condition? condition?' h h'
  have both : condition?.isSome = condition?'.isSome := by
    rw [searchField_isSome h, searchField_isSome h', same]
  cases condition? with
  | none => rw [Option.isNone_iff_eq_none.1 (Option.isSome_eq_false_iff.1 both.symm)]
  | some condition =>
    obtain ⟨condition', rfl⟩ := Option.isSome_iff_exists.1 both.symm
    rw [Option.map_some, Option.map_some, searchField_emptied h, searchField_emptied h']

theorem searchFields_agree {paths : List String}
    (same : ∀ path ∈ paths, plan.root.canSearch plan.registry term path =
      plan.root.canSearch plan.registry term' path) (number : Nat) :
    Agree (List.map Condition.emptied) (searchFields plan term number paths)
      (searchFields plan term' number paths) := by
  induction paths generalizing number with
  | nil => exact .refl _ _
  | cons path paths ih =>
    obtain ⟨first, rest⟩ := List.forall_mem_cons.1 same
    unfold searchFields
    split
    · exact ih rest number
    · rename_i blocked
      split
      · exact ih rest number
      · rename_i field column resolved
        obtain ⟨of_root, rfl⟩ := JoinPlan.resolve_eq_ok resolved
        have takes : field.column.type.takes term = field.column.type.takes term' := by
          simpa [Entity.canSearch, blocked, of_root] using first
        refine Agree.bind (searchField_agree takes) fun condition? condition?' _ _ same => ?_
        cases condition? with
        | none =>
          rw [Option.map_eq_none_iff.1 same.symm]
          exact ih rest number
        | some condition =>
          obtain ⟨condition', rfl, own⟩ := Option.map_eq_some_iff.1 same.symm
          refine Agree.bind (ih rest (number + 1)) fun others others' _ _ tail => .ok ?_
          rw [List.map_cons, List.map_cons, own, tail]

end

theorem searchCondition_agree {plan : JoinPlan} {term term' : String} {paths : List String}
    (same : ∀ path ∈ paths, plan.root.canSearch plan.registry term path =
      plan.root.canSearch plan.registry term' path) :
    Agree (Option.map Condition.emptied) (searchCondition plan term paths)
      (searchCondition plan term' paths) := by
  unfold searchCondition
  split
  · exact .refl _ _
  · refine Agree.bind (searchFields_agree same 0) fun conditions conditions' _ _ same => ?_
    cases conditions with
    | nil =>
      obtain rfl := List.map_eq_nil_iff.1 same.symm
      exact .refl _ _
    | cons first rest =>
      cases conditions' with
      | nil => cases same
      | cons first' rest' =>
        obtain ⟨head, tail⟩ := List.cons.inj same
        refine .ok ?_
        rw [Option.map_some, Option.map_some, Condition.emptied_anyOf, Condition.emptied_anyOf,
          head, tail]

theorem compileSearch_agree {plan : JoinPlan} {request other : Request}
    (fields : request.searchFields = other.searchFields)
    (shapes : request.searchShape plan.registry plan.root =
      other.searchShape plan.registry plan.root) :
    Agree (Option.map Condition.emptied)
      (compileSearch plan request.search request.searchFields)
      (compileSearch plan other.search other.searchFields) := by
  intro bracket bracket' h h'
  unfold Request.searchShape at shapes
  cases hterm : searchTerm? request.search with
  | none =>
    rw [hterm] at shapes
    have hterm' := Option.map_eq_none_iff.1 shapes.symm
    rw [compileSearch_none hterm h, compileSearch_none hterm' h']
  | some term =>
    rw [hterm, Option.map_some, eq_comm, Option.map_eq_some_iff] at shapes
    obtain ⟨term', hterm', usable⟩ := shapes
    rw [compileSearch_eq hterm] at h
    rw [compileSearch_eq hterm', ← fields] at h'
    obtain ⟨paths, hp, h⟩ := bind_eq_ok_iff.1 h
    rw [hp, ok_bind] at h'
    rw [← fields, hp, Except.toOption, Option.getD_some] at usable
    have same : ∀ path ∈ searchPaths paths, plan.root.canSearch plan.registry term path =
        plan.root.canSearch plan.registry term' path := fun path listed =>
      (List.map_inj_left.1 usable path (List.mem_filter.1 listed).1).symm
    exact searchCondition_agree same _ _ h h'

/-! ## Plans -/

theorem searchRelations_congr {registry : Registry} {root : Entity} {request other : Request}
    (fields : request.searchFields = other.searchFields)
    (shapes : request.searchShape registry root = other.searchShape registry root) :
    searchRelations root request = searchRelations root other := by
  unfold Request.searchShape at shapes
  unfold searchRelations
  rw [fields]
  cases h : searchTerm? request.search with
  | none =>
    rw [h] at shapes
    rw [Option.map_eq_none_iff.1 shapes.symm]
  | some term =>
    rw [h, Option.map_some, eq_comm, Option.map_eq_some_iff] at shapes
    obtain ⟨term', h', -⟩ := shapes
    rw [h']

theorem planRequest_congr {defaults : Defaults} {registry : Registry} {root : Entity}
    {request other : Request} (same : request.SameShape defaults registry root other)
    {terms terms' : List FilterTerm} {groups groups' : List (List FilterTerm)}
    (hterms : terms.map FilterTerm.outline = terms'.map FilterTerm.outline)
    (hgroups :
      groups.map (List.map FilterTerm.outline) = groups'.map (List.map FilterTerm.outline)) :
    planRequest registry root request terms groups =
      planRequest registry root other terms' groups' := by
  have fields : (terms ++ groups.flatten).map (·.field) =
      (terms' ++ groups'.flatten).map (·.field) := by
    have outlines : (terms ++ groups.flatten).map FilterTerm.outline =
        (terms' ++ groups'.flatten).map FilterTerm.outline := by
      rw [List.map_append, List.map_append, List.map_flatten, List.map_flatten, hterms, hgroups]
    exact map_eq_of_map_eq outlines fun _ _ h => congrArg TermOutline.field h
  simp only [planRequest, requiredPaths, fields, same.relations, same.sortBy,
    searchRelations_congr same.searchFields same.searchShape]

/-! ## Statements -/

/-- Requests that differ in their page and in values of one shape have the same statements, but for
the values of parameters. -/
theorem text_of_shape {defaults : Defaults} {registry : Registry} {entity : String}
    {request request' : Request} {listing other : Listing}
    (compiled : compileListing defaults registry entity request = .ok listing)
    (compiled' : compileListing defaults registry entity request' = .ok other)
    (same : request.SameShape defaults registry listing.plan.root request') :
    Sql.countText listing = Sql.countText other ∧ Sql.dataText listing = Sql.dataText other ∧
      (Sql.dataParams listing).map (·.1) = (Sql.dataParams other).map (·.1) := by
  obtain ⟨root, terms, groups, hget, -, ht, hp, hc, hs⟩ := compileListing_eq_ok compiled
  obtain ⟨root', terms', groups', hget', -, ht', hp', hc', hs'⟩ := compileListing_eq_ok compiled'
  cases hget.symm.trans hget'
  obtain ⟨hreg, hroot, -⟩ := planRequest_root hp
  obtain ⟨hterms, hgroups⟩ := requestTerms_congr same.outlines ht ht'
  have plans : listing.plan = other.plan := by
    rw [planRequest_congr (hroot ▸ same) hterms hgroups, hp'] at hp
    exact (Except.ok.inj hp).symm
  have sorting : listing.sorting = other.sorting := by
    rw [plans, same.sortBy, same.sortOrder, hs'] at hs
    exact (Except.ok.inj hs).symm
  have conditions :
      listing.conditions.map Condition.emptied = other.conditions.map Condition.emptied := by
    obtain ⟨filters, bracket, search, extra, hf, hb, hs, he, hl⟩ := compileConditions_eq_ok_iff.1 hc
    obtain ⟨filters', bracket', search', extra', hf', hb', hs', he', hl'⟩ :=
      compileConditions_eq_ok_iff.1 hc'
    rw [← plans] at hf' hb' hs' he'
    rw [same.extraConditions] at he
    cases he.symm.trans he'
    have searches := @compileSearch_agree listing.plan _ _ same.searchFields
      (hreg.symm ▸ same.searchShape) _ _ hs hs'
    rw [hl, hl', ← plans, same.withDeleted]
    simp only [List.map_append, ← Option.toList_map,
      compileFilters_agree hterms _ _ hf hf', compileOrFilters_agree hgroups _ _ hb hb', searches]
  exact ⟨Sql.countText_congr ⟨plans, sorting, conditions⟩,
    Sql.dataText_congr ⟨plans, sorting, conditions⟩,
    Sql.dataNames_congr ⟨plans, sorting, conditions⟩⟩

namespace Sample

/-- Widgets by a text, a list, a range, a whole day, an absent parent, a group and a search. -/
def shapedRequest (name grade other day term : String) (first last absent : Value) : Request where
  search := .text term
  searchFields := .list [.text "name", .text "grade", .text "parent.serial"]
  filters := .map [("name", .text name), ("grade", .list [.text grade, .text other]),
    ("serial.gte", first), ("serial.lte", last), ("stamped", .text day),
    ("parent_id.isnull", absent)]
  orFilters := .list [.map [("children.name.like", .text name)],
    .map [("parent.name", .text name), ("weight.gt", first)]]

def plainRequest : Request :=
  shapedRequest "nut" "a" "b" "2024-01-15" "7" (.int 1) (.int 9) (.bool true)

/-- The same with a text that would end a quoted one, on another page. -/
def quotingRequest : Request :=
  { shapedRequest "'; DROP TABLE widgets --" "c d" "a" "1999-12-31" "12" (.int 5) (.int 5)
      (.text "1") with
    page := .int 3, limit := .int 50 }

end Sample

theorem text_of_shape_widget : ∃ listing other,
    compileListing {} Sample.registry "widget" Sample.plainRequest = .ok listing ∧
      compileListing {} Sample.registry "widget" Sample.quotingRequest = .ok other ∧
      Sample.plainRequest.SameShape {} Sample.registry listing.plan.root Sample.quotingRequest ∧
      (Sql.dataParams listing).length = 14 ∧
      Sql.countText listing = Sql.countText other ∧ Sql.dataText listing = Sql.dataText other := by
  obtain ⟨listing, compiled, params⟩ := @exists_ok_of_any _ _
    (compileListing {} Sample.registry "widget" Sample.plainRequest)
    (fun listing => (Sql.dataParams listing).length == 14) (by decide +kernel)
  obtain ⟨other, compiled', -⟩ := @exists_ok_of_any _ _
    (compileListing {} Sample.registry "widget" Sample.quotingRequest) (fun _ => true)
    (by decide +kernel)
  obtain ⟨root, _, _, named, -, -, planned, -⟩ := compileListing_eq_ok compiled
  have root_widget : listing.plan.root = Sample.widget := by
    rw [(planRequest_root planned).2.1]
    exact (Except.ok.inj named).symm
  obtain ⟨shown, outlines, found⟩ := @exists_ok_of_any _ _ (Sample.plainRequest.outlines {})
    (fun shown => (Sample.quotingRequest.outlines {}).toOption.any (· == shown)) (by decide +kernel)
  obtain ⟨_, outlines', alike⟩ := exists_ok_of_any found
  have same :
      Sample.plainRequest.SameShape {} Sample.registry listing.plan.root Sample.quotingRequest :=
    { relations := rfl, sortBy := rfl, sortOrder := rfl, withDeleted := rfl
      extraConditions := rfl, searchFields := rfl
      outlines := by rw [outlines, outlines', eq_of_beq alike]
      searchShape := by rw [root_widget]; decide +kernel }
  have texts := text_of_shape compiled compiled' same
  exact ⟨listing, other, compiled, compiled', same, eq_of_beq params, texts.1, texts.2.1⟩

end RecordListing
