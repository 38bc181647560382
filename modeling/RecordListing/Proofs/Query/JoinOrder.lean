import RecordListing.Schema.Sample
import RecordListing.Proofs.Query.Aliases
import RecordListing.Proofs.Query.Demands
import RecordListing.Proofs.Query.NoMissingJoin

/-!
# The order of joins

A plan is refused for the first required path that cannot be followed, at its first segment that is
no relation. Otherwise it joins the beginnings of the paths that can be followed, each once and in
the order in which the paths mention them, under aliases of their own (`joins_in_order`).
-/

set_option autoImplicit false

namespace RecordListing

open Text Outcome

/-! ## Lists without repetitions -/

section
variable {α : Type} [BEq α] [LawfulBEq α]

theorem eraseDups_eq_self {items : List α} (distinct : items.Nodup) : items.eraseDups = items := by
  induction items with
  | nil => rfl
  | cons item items ih =>
    obtain ⟨fresh, rest⟩ := List.nodup_cons.1 distinct
    have kept : items.filter (fun other => !other == item) = items := by
      refine List.filter_eq_self.2 fun other ho => ?_
      have ne : other ≠ item := fun e => fresh (e ▸ ho)
      simpa using ne
    rw [List.eraseDups_cons, kept, ih rest]

/-- An item that is there already may as well not be added. -/
theorem eraseDups_append_cons {items others : List α} {item : α} (known : item ∈ items) :
    (items ++ item :: others).eraseDups = (items ++ others).eraseDups := by
  have left_out : (item :: others).removeAll items = others.removeAll items := by
    simp [List.removeAll, known]
  rw [List.eraseDups_append, List.eraseDups_append, left_out]

theorem eraseDups_append_singleton (items : List α) (item : α)
    [Decidable (item ∈ items.eraseDups)] :
    (items ++ [item]).eraseDups = if item ∈ items.eraseDups then items.eraseDups
      else items.eraseDups ++ [item] := by
  rw [List.eraseDups_append]
  simp only [List.mem_eraseDups]
  by_cases known : item ∈ items
  · simp [known, List.removeAll]
  · simp [known, List.removeAll, List.eraseDups_cons]

/-- Repetitions among the first items may as well be left out before the others are added. -/
theorem eraseDups_append_eraseDups (items others : List α) :
    (items.eraseDups ++ others).eraseDups = (items ++ others).eraseDups := by
  have same : others.removeAll items.eraseDups = others.removeAll items := by
    simp [List.removeAll]
  rw [List.eraseDups_append, List.eraseDups_append, same, eraseDups_eq_self (nodup_eraseDups items)]

end

/-! ## Steps of one path -/

/-- The runs of relations that a dotted one begins with, the shorter ones first. -/
def beginnings (path : String) : List (List String) := (pathSegments path).inits.tail

/-- Whether all segments of a dotted run of relations are relations. -/
def Registry.canFollow (registry : Registry) (root : Entity) (path : String) : Bool :=
  (registry.reach? root (pathSegments path)).isSome

namespace JoinPlan

variable {registry : Registry} {root : Entity} {path : String}

theorem stepsAlong_hops {before : List String} {entity : Entity} {segments : List String}
    {steps : List JoinStep}
    (h : stepsAlong registry path before entity segments = .ok steps) :
    steps.map (·.hops) = segments.inits.tail.map (before ++ ·) := by
  induction segments generalizing before entity steps with
  | nil =>
    cases h
    rfl
  | cons segment rest ih =>
    cases hh : registry.hop? entity segment with
    | none => simp [stepsAlong, hh] at h
    | some hop =>
      simp only [stepsAlong, hh, map_eq_ok_iff] at h
      obtain ⟨more, hm, rfl⟩ := h
      have inits : rest.inits = [] :: rest.inits.tail := by cases rest <;> rfl
      simp only [List.inits_cons, List.tail_cons, List.map_map]
      rw [inits, List.map_cons, List.map_cons, ih hm]
      simp [Function.comp_def]

theorem stepsOf_hops {steps : List JoinStep} (h : stepsOf registry root path = .ok steps) :
    steps.map (·.hops) = beginnings path := by
  simpa [beginnings] using stepsAlong_hops h

/-- A path can be followed exactly if it has steps. -/
theorem canFollow_eq (registry : Registry) (root : Entity) (path : String) :
    registry.canFollow root path = (stepsOf registry root path).isOk := by
  rw [Bool.eq_iff_iff, Registry.canFollow, ← stepsAlong_isOk_iff, ← stepsOf]
  cases stepsOf registry root path <;> simp [Except.isOk, Except.toBool]

/-- Relations have names, so that an empty path is none. -/
theorem canFollow_empty (registry : Registry) (root : Entity) :
    registry.canFollow root "" = false := by
  have none_named : root.relation? "" = none := by
    cases found : root.relation? "" with
    | none => rfl
    | some relation => exact absurd rfl (Entity.relation?_named found)
  have segments : pathSegments "" = [""] := rfl
  simp [Registry.canFollow, segments, Registry.reach?, Registry.hop?, none_named]

theorem addOptional_cons (steps : List JoinStep) (paths : List String) :
    addOptional registry root steps (path :: paths) =
      match stepsOf registry root path with
      | .ok new => addOptional registry root (extend steps new) paths
      | .error _ => addOptional registry root steps paths := by
  rw [addOptional]
  split
  · rename_i empty
    obtain rfl : path = "" := by simpa using empty
    have stopped := canFollow_eq registry root ""
    rw [canFollow_empty] at stopped
    cases followed : stepsOf registry root "" with
    | error reason => rfl
    | ok new =>
      rw [followed] at stopped
      cases stopped
  · cases stepsOf registry root path <;> rfl

/-! ## Steps of several paths -/

theorem extend_hops {steps : List JoinStep} (distinct : (steps.map (·.hops)).Nodup)
    (new : List JoinStep) :
    (extend steps new).map (·.hops) = (steps.map (·.hops) ++ new.map (·.hops)).eraseDups := by
  induction new generalizing steps with
  | nil => simpa [extend] using (eraseDups_eq_self distinct).symm
  | cons step new ih =>
    rw [extend, List.foldl_cons, ← extend, List.map_cons]
    cases seen : reaches steps step.hops with
    | true =>
      have known : step.hops ∈ steps.map (·.hops) := List.mem_map.2 (reaches_iff.1 seen)
      rw [if_pos rfl, ih distinct, eraseDups_append_cons known]
    | false =>
      have fresh : step.hops ∉ steps.map (·.hops) := fun known => by
        rw [reaches_iff.2 (List.mem_map.1 known)] at seen
        cases seen
      have longer : ((steps ++ [step]).map (·.hops)).Nodup := by
        rw [List.map_append]
        exact distinct.append (List.nodup_singleton _) (by simpa using fresh)
      rw [if_neg (by simp), ih longer, List.map_append, List.append_assoc]
      rfl

/-- Of several paths those are joined that can be followed, in order. -/
theorem addOptional_hops {steps : List JoinStep} (distinct : (steps.map (·.hops)).Nodup)
    (paths : List String) :
    (addOptional registry root steps paths).map (·.hops) = (steps.map (·.hops) ++
      (paths.filter (registry.canFollow root)).flatMap beginnings).eraseDups := by
  induction paths generalizing steps with
  | nil => simpa [addOptional] using (eraseDups_eq_self distinct).symm
  | cons path paths ih =>
    rw [addOptional_cons, List.filter_cons, canFollow_eq]
    cases followed : stepsOf registry root path with
    | error reason => exact ih distinct
    | ok new =>
      have longer := extend_hops distinct new
      have distinct' : ((extend steps new).map (·.hops)).Nodup := longer ▸ nodup_eraseDups _
      have kept : ((Except.ok new : Except Refusal (List JoinStep)).isOk = true) := rfl
      rw [if_pos kept, List.flatMap_cons]
      dsimp only
      rw [ih distinct', longer, eraseDups_append_eraseDups, stepsOf_hops followed,
        List.append_assoc]

/-! ## Refusals -/

/-- Whether a segment is the first to stop paths that are followed one after the other, and the path
that it stops. Empty paths are passed over. -/
def StopsFirst (registry : Registry) (root : Entity) (paths : List String) (path segment : String) :
    Prop :=
  ∃ before after, paths = before ++ path :: after ∧ path ≠ "" ∧
    (∀ earlier ∈ before, earlier ≠ "" → registry.canFollow root earlier = true) ∧
    registry.StopsAt root (pathSegments path) segment

theorem stepsOf_eq_error_iff {reason : Refusal} :
    stepsOf registry root path = .error reason ↔
      ∃ segment, registry.StopsAt root (pathSegments path) segment ∧
        reason = .unknownRelationSegment segment path := by
  simp only [stepsOf, stepsAlong_eq_error_iff, Registry.firstBad?_eq_some_iff]

theorem canFollow_of_stops {segment : String}
    (h : registry.StopsAt root (pathSegments path) segment) :
    registry.canFollow root path = false := by
  rw [canFollow_eq, stepsOf_eq_error_iff.2 ⟨segment, h, rfl⟩]
  rfl

section
variable {first segment : String} {paths : List String}

/-- After a path that is empty or can be followed, the others are stopped as they are without it. -/
theorem stopsFirst_passed (passed : first ≠ "" → registry.canFollow root first = true) :
    StopsFirst registry root (first :: paths) path segment ↔
      StopsFirst registry root paths path segment := by
  constructor
  · rintro ⟨before, after, split, named, follows, stops⟩
    cases before with
    | nil =>
      obtain ⟨rfl, -⟩ := List.cons.inj split
      have stopped := canFollow_of_stops stops
      rw [passed named] at stopped
      cases stopped
    | cons other before =>
      obtain ⟨rfl, rfl⟩ := List.cons.inj split
      exact ⟨before, after, rfl, named, (List.forall_mem_cons.1 follows).2, stops⟩
  · rintro ⟨before, after, rfl, named, follows, stops⟩
    exact ⟨first :: before, after, rfl, named, List.forall_mem_cons.2 ⟨passed, follows⟩, stops⟩

theorem firstFault?_passed (passed : first ≠ "" → registry.canFollow root first = true) :
    firstFault? registry root (first :: paths) = firstFault? registry root paths := by
  rw [firstFault?]
  split
  · rfl
  · rename_i named
    have follows := passed (by simpa using named)
    rw [canFollow_eq] at follows
    cases followed : stepsOf registry root first with
    | ok steps => rfl
    | error reason =>
      rw [followed] at follows
      cases follows

end

theorem firstFault?_eq_some_iff {paths : List String} {reason : Refusal} :
    firstFault? registry root paths = some reason ↔
      ∃ path segment, StopsFirst registry root paths path segment ∧
        reason = .unknownRelationSegment segment path := by
  induction paths with
  | nil => simp [firstFault?, StopsFirst]
  | cons first paths ih =>
    by_cases passed : first ≠ "" → registry.canFollow root first = true
    · simp only [stopsFirst_passed passed, firstFault?_passed passed, ih]
    · obtain ⟨named, stopped⟩ := Classical.not_imp.1 passed
      cases followed : stepsOf registry root first with
      | ok steps =>
        rw [canFollow_eq, followed] at stopped
        exact absurd rfl stopped
      | error stop =>
        have fault : firstFault? registry root (first :: paths) = some stop := by
          simp [firstFault?, named, followed]
        obtain ⟨segment, stops, rfl⟩ := stepsOf_eq_error_iff.1 followed
        rw [fault]
        constructor
        · rintro ⟨⟩
          exact ⟨first, segment, ⟨[], paths, rfl, named, by simp, stops⟩, rfl⟩
        · rintro ⟨path, other, ⟨before, after, split, -, follows, stops'⟩, rfl⟩
          cases before with
          | nil =>
            obtain ⟨rfl, -⟩ := List.cons.inj split
            rw [stepsOf_eq_error_iff.2 ⟨other, stops', rfl⟩] at followed
            rw [Except.error.inj followed]
          | cons earlier before =>
            obtain ⟨rfl, -⟩ := List.cons.inj split
            exact absurd ((List.forall_mem_cons.1 follows).1 named) stopped

/-! ## Parents and aliases -/

/-- A step goes on from the root, or from a step before it. -/
theorem Planned.parent_earlier {steps : List JoinStep} (h : Planned registry root steps)
    {front back : List JoinStep} {step : JoinStep} (split : steps = front ++ step :: back) :
    step.parent = [] ∨ ∃ earlier ∈ front, earlier.hops = step.parent := by
  induction h generalizing back with
  | nil => simp at split
  | @snoc steps last _ _ _ parent ih =>
    rcases List.eq_nil_or_concat back with rfl | ⟨back, final, rfl⟩
    · obtain ⟨rfl, ⟨⟩⟩ := List.append_inj' split rfl
      exact parent.imp_right reaches_iff.1
    · have shorter : steps ++ [last] = (front ++ step :: back) ++ [final] := by simpa using split
      exact ih (List.append_inj' shorter rfl).1

/-- Relations that can be followed are relations of registered entities. -/
theorem names_of_reach? {entity : Entity} {hops : List String}
    (registered : entity ∈ registry.entities) (h : (registry.reach? entity hops).isSome) :
    ∀ hop ∈ hops, ∃ owner ∈ registry.entities, ∃ relation ∈ owner.relations,
      relation.name = hop := by
  induction hops generalizing entity with
  | nil => simp
  | cons hop hops ih =>
    cases found : registry.hop? entity hop with
    | none => simp [Registry.reach?, found] at h
    | some next =>
      obtain ⟨relation, own, target, reached, rfl⟩ :
          ∃ relation, entity.relation? hop = some relation ∧
            ∃ target, registry.find? relation.target = some target ∧ (relation, target) = next := by
        simpa [Registry.hop?, Option.bind_eq_some_iff] using found
      have named : relation.name = hop := by simpa using List.find?_some own
      have rest : (registry.reach? target hops).isSome := by
        simpa [Registry.reach?, found] using h
      refine List.forall_mem_cons.2 ⟨?_, ih (List.mem_of_find?_eq_some reached) rest⟩
      exact ⟨entity, registered, relation, List.mem_of_find?_eq_some own, named⟩

/-- Whether the steps of a plan are the beginnings of paths, each once and in the order in which the
paths mention them, and each goes on from the root or from a step before it. -/
structure Follows (plan : JoinPlan) (paths : List String) : Prop where
  order : plan.steps.map (·.hops) = (paths.flatMap beginnings).eraseDups
  valid : ∀ step ∈ plan.steps, step.Valid plan.registry plan.root
  parent : ∀ front step back, plan.steps = front ++ step :: back →
    step.parent = [] ∨ ∃ earlier ∈ front, earlier.hops = step.parent

theorem build_follows {required optional : List String} {plan : JoinPlan}
    (h : build registry root required optional = .ok plan) :
    plan.Follows (required.filter (· ≠ "") ++ optional.filter (registry.canFollow root)) := by
  obtain ⟨-, -, planned, -⟩ := build_spec h
  have same : required.filter (registry.canFollow root) = required.filter (· ≠ "") := by
    refine List.filter_congr fun path hm => ?_
    by_cases named : path = ""
    · simp [named, canFollow_empty]
    · obtain ⟨new, followed⟩ := required_followed h hm named
      rw [canFollow_eq, followed]
      simp [named, Except.isOk, Except.toBool]
  have none_joined : (([] : List JoinStep).map (·.hops)).Nodup := List.nodup_nil
  have order : (addOptional registry root [] (required ++ optional)).map (·.hops) = _ :=
    addOptional_hops none_joined _
  rw [List.filter_append, same] at order
  rw [build_eq] at h
  split at h
  · cases h
  · obtain rfl := Except.ok.inj h
    exact ⟨order, planned.valid, fun _ _ _ split => planned.parent_earlier split⟩

theorem aliases_nodup {required optional : List String} {plan : JoinPlan}
    (h : build registry root required optional = .ok plan) (registered : root ∈ registry.entities)
    (plain : ∀ entity ∈ registry.entities, ∀ relation ∈ entity.relations,
      IsPlainName relation.name) : (plan.rootAlias :: plan.aliases).Nodup := by
  obtain ⟨hregistry, hroot, planned, -⟩ := build_spec h
  have follows := build_follows h
  have distinct : ([] :: plan.steps.map (·.hops)).Nodup := by
    refine List.nodup_cons.2 ⟨fun hm => ?_, follows.order ▸ nodup_eraseDups _⟩
    obtain ⟨step, hs, none_followed⟩ := List.mem_map.1 hm
    exact valid_hops_ne_nil (planned.valid step hs) none_followed
  have plain_hops : ∀ hops ∈ [] :: plan.steps.map (·.hops), ∀ hop ∈ hops, IsPlainName hop := by
    rw [List.forall_mem_cons, List.forall_mem_map]
    refine ⟨nofun, fun step hs hop hm => ?_⟩
    have reached := reach?_of_valid (planned.valid step hs)
    obtain ⟨owner, ho, relation, hr, rfl⟩ :=
      names_of_reach? registered (Option.isSome_of_eq_some reached) hop hm
    exact plain owner ho relation hr
  have named : plan.rootAlias :: plan.aliases =
      ([] :: plan.steps.map (·.hops)).map (aliasOf plan.root) := by
    simp [aliases, rootAlias, aliasOf, joined]
  rw [named]
  refine List.Nodup.map_on (fun hops hm others hm' same => ?_) distinct
  exact aliasOf_injective (plain_hops hops hm) (plain_hops others hm') same

end JoinPlan

open JoinPlan in
/-- Paths are joined in the order in which they are mentioned, those that must be followed first,
and every run of relations is joined once, under an alias of its own. -/
theorem joins_in_order (registry : Registry) (root : Entity) (required optional : List String) :
    (∀ reason, build registry root required optional = .error reason ↔
      ∃ path segment, StopsFirst registry root required path segment ∧
        reason = .unknownRelationSegment segment path) ∧
    ∀ plan, build registry root required optional = .ok plan →
      plan.registry = registry ∧ plan.root = root ∧
      plan.Follows (required.filter (· ≠ "") ++ optional.filter (registry.canFollow root)) ∧
      plan.rootAlias = root.name ∧
      plan.aliases = plan.steps.map (fun step => "__".intercalate (root.name :: step.hops)) ∧
      (root ∈ registry.entities →
        (∀ entity ∈ registry.entities, ∀ relation ∈ entity.relations,
          IsPlainName relation.name) →
        (plan.rootAlias :: plan.aliases).Nodup) := by
  refine ⟨fun reason => ?_, fun plan h => ?_⟩
  · rw [← firstFault?_eq_some_iff, build_eq]
    cases firstFault? registry root required <;> simp
  · obtain ⟨hregistry, rfl, -⟩ := build_spec h
    refine ⟨hregistry, rfl, build_follows h, rfl, ?_, aliases_nodup h⟩
    simp only [aliases, aliasOf, joined_eq_intercalate]

theorem joins_in_order_pairing :
    let required := ["widget.parent", "", "widget"]
    let optional := ["widget.bogus", "widget.children.parent"]
    let reason := Refusal.unknownRelationSegment "bogus" "widget.bogus"
    Sample.pairing ∈ Sample.registry.entities ∧
      (∀ entity ∈ Sample.registry.entities, ∀ relation ∈ entity.relations,
        IsPlainName relation.name) ∧
      JoinPlan.build Sample.registry Sample.pairing (required ++ optional) [] = .error reason ∧
      ∃ plan, JoinPlan.build Sample.registry Sample.pairing required optional = .ok plan ∧
        plan.steps.map (·.hops) = [["widget"], ["widget", "parent"], ["widget", "children"],
          ["widget", "children", "parent"]] ∧
        (plan.rootAlias :: plan.aliases).Nodup := by
  intro required optional reason
  have registered : Sample.pairing ∈ Sample.registry.entities := by simp [Sample.registry]
  have plain : ∀ entity ∈ Sample.registry.entities, ∀ relation ∈ entity.relations,
      IsPlainName relation.name := by decide +kernel
  obtain ⟨plan, built, -⟩ := @exists_ok_of_any _ _
    (JoinPlan.build Sample.registry Sample.pairing required optional) (fun _ => true)
    (by decide +kernel)
  obtain ⟨refused, -⟩ := joins_in_order Sample.registry Sample.pairing (required ++ optional) []
  obtain ⟨-, planned⟩ := joins_in_order Sample.registry Sample.pairing required optional
  obtain ⟨-, -, follows, -, -, distinct⟩ := planned plan built
  refine ⟨registered, plain, ?_, plan, built, ?_, distinct registered plain⟩
  · have stops : Sample.registry.StopsAt Sample.pairing (pathSegments "widget.bogus") "bogus" :=
      ⟨["widget"], [], Sample.widget, by decide +kernel, rfl, rfl⟩
    have followed : ∀ path ∈ required, path ≠ "" →
        Sample.registry.canFollow Sample.pairing path = true := by decide +kernel
    exact (refused reason).2 ⟨_, _, ⟨required, [_], rfl, by decide, followed, stops⟩, rfl⟩
  · rw [follows.order]
    decide +kernel

end RecordListing
