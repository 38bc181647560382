import RecordListing.Proofs.Query.Compilation
import RecordListing.Proofs.Query.Coverage

/-!
# No join is ever missing

No listing fails for a missing join (`compileListing_neverMissing`), nor does any of its search
fields (`no_missing_join`). Planning the relations in front of a column and following them to it are
one walk: they stop at the same segment, and where they do not stop the plan finds the column at the
end of the walk (`build_relationHops_error_iff`, `resolve_joined`).
-/

set_option autoImplicit false

namespace RecordListing

open Text Outcome

/-! ## Whole requests -/

theorem JoinPlan.firstFault?_eq_some {registry : Registry} {root : Entity} {paths : List String}
    {reason : Refusal} (h : firstFault? registry root paths = some reason) :
    ∃ segment path, reason = .unknownRelationSegment segment path := by
  induction paths with
  | nil => cases h
  | cons path paths ih =>
    simp only [firstFault?] at h
    split at h
    · exact ih h
    · split at h
      · rename_i he
        cases h
        obtain ⟨segment, -, rfl⟩ := stepsAlong_eq_error_iff.1 he
        exact ⟨segment, path, rfl⟩
      · exact ih h

theorem planRequest_neverMissing (registry : Registry) (root : Entity) (request : Request)
    (terms : List FilterTerm) (groups : List (List FilterTerm)) :
    NeverMissing (planRequest registry root request terms groups) := by
  have required : NeverMissing
      (requiredPaths root request ((terms ++ groups.flatten).map (·.field))) :=
    (paths_neverMissing _).bind fun relations => (readSortField_neverMissing _).bind
      fun field => sound_ok trivial
  have optional : NeverMissing (searchRelations root request) := by
    unfold searchRelations
    split
    · exact sound_ok trivial
    · refine Ends.map ?_
      exact paths_neverMissing _
  refine required.bind fun required => optional.bind fun optional => ?_
  rw [JoinPlan.build_eq]
  split
  · exact sound_ok trivial
  · rename_i he
    split at he
    · rename_i hf
      cases he
      obtain ⟨segment, path, rfl⟩ := JoinPlan.firstFault?_eq_some hf
      exact sound_refuse (by simp [Refusal.category])
    · cases he

theorem compileListing_neverMissing (defaults : Defaults) (registry : Registry) (entity : String)
    (request : Request) : NeverMissing (compileListing defaults registry entity request) := by
  have get : NeverMissing (registry.get entity) := by
    unfold Registry.get
    split
    · exact sound_ok trivial
    · exact sound_refuse (by simp [Refusal.category])
  refine get.bind fun root => (readWindow_neverMissing _ _ _).bind fun window =>
    (requestTerms_neverMissing _ _).bind fun terms => Sound.bind
      (planRequest_neverMissing _ _ _ _ _) fun plan hp _ => ?_
  obtain ⟨fields, sort, -⟩ := planRequest_joins hp
  exact (compileConditions_sound fun term ht => (fields term ht).covers).bind fun conditions _ _ =>
    (compileSorting_sound (fun field hf => (sort field hf).covers) _ _).bind
      fun sorting _ _ => sound_ok trivial

/-! ## Planning and following -/

/-- Whether `segment` is the first that is no relation of the entity reached so far. -/
def Registry.StopsAt (registry : Registry) (root : Entity) (hops : List String)
    (segment : String) : Prop :=
  ∃ front rest owner, hops = front ++ segment :: rest ∧
    registry.reach? root front = some owner ∧ registry.hop? owner segment = none

theorem Registry.firstBad?_eq_some_iff {registry : Registry} {root : Entity} {hops : List String}
    {segment : String} :
    registry.firstBad? root hops = some segment ↔ registry.StopsAt root hops segment := by
  unfold StopsAt
  induction hops generalizing root with
  | nil => simp [firstBad?]
  | cons first rest ih =>
    cases hh : registry.hop? root first with
    | none =>
      simp only [firstBad?, hh, Option.some.injEq]
      constructor
      · rintro rfl
        exact ⟨[], rest, root, rfl, rfl, hh⟩
      · rintro ⟨front, back, owner, he, reached, -⟩
        cases front with
        | nil => exact (List.cons.inj he).1
        | cons next front =>
          obtain ⟨rfl, -⟩ := List.cons.inj he
          simp [reach?, hh] at reached
    | some hop =>
      simp only [firstBad?, hh, ih]
      constructor
      · rintro ⟨front, back, owner, rfl, reached, hn⟩
        exact ⟨first :: front, back, owner, rfl, by simpa [reach?, hh] using reached, hn⟩
      · rintro ⟨front, back, owner, he, reached, hn⟩
        cases front with
        | nil =>
          obtain ⟨rfl, -⟩ := List.cons.inj he
          cases reached
          rw [hh] at hn
          cases hn
        | cons next front =>
          obtain ⟨rfl, rfl⟩ := List.cons.inj he
          exact ⟨front, back, owner, rfl, by simpa [reach?, hh] using reached, hn⟩

section
variable {registry : Registry} {root : Entity} {path : String}
    (hne : root.relationHops path ≠ [])
include hne

/-- Planning the relations in front of a column fails on the segment where following them stops. -/
theorem build_relationHops_error_iff {reason : Refusal} :
    JoinPlan.build registry root [pathText (root.relationHops path)] [] = .error reason ↔
      ∃ segment, registry.StopsAt root (root.relationHops path) segment ∧
        reason = .unknownRelationSegment segment (pathText (root.relationHops path)) := by
  have named : (pathText (root.relationHops path)).isEmpty = false := by
    simpa using pathText_relationHops_ne_empty hne
  simp only [JoinPlan.build_eq, JoinPlan.firstFault?, named, stepsOf_relationHops hne,
    ← Registry.firstBad?_eq_some_iff]
  rw [← JoinPlan.stepsAlong_eq_error_iff]
  cases JoinPlan.stepsAlong registry (pathText (root.relationHops path)) [] root
    (root.relationHops path) <;> simp

/-- What a plan makes of a path whose relations it was asked to join. -/
theorem resolve_joined {required optional : List String} {plan : JoinPlan} {target : Entity}
    (hb : JoinPlan.build registry root required optional = .ok plan)
    (hm : pathText (root.relationHops path) ∈ required ++ optional)
    (hw : registry.walk path root (root.relationHops path) = .ok target) :
    (∃ step ∈ plan.steps, step.hops = root.relationHops path ∧ step.target = target) ∧
      plan.resolve path =
        match target.column? ((pathSegments path).getLast?.getD "") with
        | none => .error (.unknownField path target.name)
        | some column => .ok (⟨path, root.relationHops path, column, target⟩,
            ⟨root.relationHops path, column⟩) := by
  have reached := Registry.walk_eq_ok_iff.1 hw
  have joined := JoinPlan.build_joins hb (fun _ => hm) (by simp [reached])
  obtain ⟨hreg, hroot, planned, -⟩ := JoinPlan.build_spec hb
  constructor
  · obtain ⟨step, hs, hhops⟩ := JoinPlan.reaches_iff.1 (joined (hroot.symm ▸ hne))
    refine ⟨step, hs, by rw [hhops, hroot], ?_⟩
    obtain ⟨owner, segment, he, before, hop⟩ := planned.valid step hs
    have along : registry.reach? root step.hops = some step.target := by
      simp [he, Registry.reach?_append, before, Registry.reach?, hop]
    rw [hhops, hroot, reached] at along
    exact (Option.some.inj along).symm
  · rw [JoinPlan.resolve_eq joined.covers, hroot, hreg, Entity.resolve_of_reach hne reached]
    cases target.column? ((pathSegments path).getLast?.getD "") <;> rfl

end

/-- No listing meets a missing join, neither as a refusal nor in a search field that is passed over:
its plan has joined the relations of all that it resolves. Planning relations and following them
fail alike, and where they do not fail the plan finds the column of what they lead to. -/
theorem no_missing_join (registry : Registry) :
    (∀ defaults entity request reason,
      compileListing defaults registry entity request = .error (.refusal reason) →
        reason.category ≠ .missingJoin) ∧
    (∀ root request terms groups plan,
      planRequest registry root request terms groups = .ok plan →
      plan.root = root ∧
      (∀ term ∈ terms ++ groups.flatten, plan.Joins term.field) ∧
      (∀ field, readSortField request.sortBy = .ok field → plan.Joins field) ∧
      ∀ term paths, searchTerm? request.search = some term →
        request.searchFields.paths = .ok paths → ∀ path ∈ paths,
        ((registry.reach? root (root.relationHops path)).isSome → plan.Joins path) ∧
        ∀ reason, plan.resolve path = .error reason → reason.category ≠ .missingJoin) ∧
    ∀ root path, root.relationHops path ≠ [] →
      let hops := root.relationHops path
      (∀ reason, JoinPlan.build registry root [pathText hops] [] = .error reason ↔
        ∃ segment, registry.StopsAt root hops segment ∧
          reason = .unknownRelationSegment segment (pathText hops)) ∧
      (∀ reason, registry.walk path root hops = .error reason ↔
        ∃ segment, registry.StopsAt root hops segment ∧
          reason = .unknownRelationSegment segment path) ∧
      ∀ required optional plan target,
        JoinPlan.build registry root required optional = .ok plan →
        pathText hops ∈ required ++ optional → registry.walk path root hops = .ok target →
        (∃ step ∈ plan.steps, step.hops = hops ∧ step.target = target) ∧
        plan.resolve path =
          match target.column? ((pathSegments path).getLast?.getD "") with
          | none => .error (.unknownField path target.name)
          | some column => .ok (⟨path, hops, column, target⟩, ⟨hops, column⟩) := by
  refine ⟨fun defaults entity request reason h hc => ?_,
    fun root request terms groups plan hp => ?_,
    fun root path hne => ?_⟩
  · exact (compileListing_neverMissing defaults registry entity request).error h hc
  · obtain ⟨fields, sort, search⟩ := planRequest_joins hp
    refine ⟨(planRequest_root hp).2.1, fields, sort, fun term paths ht hs path hm => ?_⟩
    exact ⟨search term paths ht hs path hm, fun reason he =>
      (planRequest_covers_search hp ht hs path hm).category_ne he⟩
  · refine ⟨fun reason => build_relationHops_error_iff hne, fun reason => ?_,
      fun required optional plan target hb hm hw => resolve_joined hne hb hm hw⟩
    simp only [Registry.walk_eq_error_iff, Registry.firstBad?_eq_some_iff]

end RecordListing
