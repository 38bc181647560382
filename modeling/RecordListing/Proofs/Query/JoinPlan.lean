import RecordListing.Query.JoinPlan
import RecordListing.Proofs.Outcome
import RecordListing.Proofs.Text.Pieces

/-!
# What a join plan holds

A run of relations is followed hop by hop. Planning it and resolving a field behind it fail on the
same segment, the first that is no relation of the entity reached so far (`walk_eq_error_iff`,
`stepsAlong_eq_error_iff`). A plan holds each run that it was asked for once, together with its
beginnings, each after the run that it extends (`Planned`), and nothing else (`build_spec`).
-/

set_option autoImplicit false

namespace RecordListing

open Text Outcome

/-! ## Registered entities -/

theorem Registry.get_eq_ok_iff {registry : Registry} {name : String} {entity : Entity} :
    registry.get name = .ok entity ↔ registry.find? name = some entity := by
  unfold get
  split <;> simp_all [refuse]

/-! ## Following relations -/

namespace Registry

/-- The entity that relations lead to, one after the other. -/
def reach? (registry : Registry) (entity : Entity) : List String → Option Entity
  | [] => some entity
  | segment :: rest => (registry.hop? entity segment).bind fun hop => registry.reach? hop.2 rest

/-- The first segment that names no relation of the entity reached so far. -/
def firstBad? (registry : Registry) (entity : Entity) : List String → Option String
  | [] => none
  | segment :: rest =>
    match registry.hop? entity segment with
    | none => some segment
    | some hop => registry.firstBad? hop.2 rest

variable {registry : Registry}

theorem reach?_append (entity : Entity) (xs ys : List String) :
    registry.reach? entity (xs ++ ys) =
      (registry.reach? entity xs).bind fun target => registry.reach? target ys := by
  induction xs generalizing entity with
  | nil => rfl
  | cons x xs ih =>
    simp only [List.cons_append, reach?]
    cases registry.hop? entity x with
    | none => rfl
    | some hop => exact ih hop.2

theorem firstBad?_eq_none_iff {entity : Entity} {segments : List String} :
    registry.firstBad? entity segments = none ↔ (registry.reach? entity segments).isSome := by
  induction segments generalizing entity with
  | nil => simp [firstBad?, reach?]
  | cons segment rest ih =>
    cases h : registry.hop? entity segment <;> simp [firstBad?, reach?, h, ih]

theorem walk_eq_ok_iff {path : String} {entity target : Entity} {segments : List String} :
    registry.walk path entity segments = .ok target ↔
      registry.reach? entity segments = some target := by
  induction segments generalizing entity with
  | nil => simp [walk, reach?]
  | cons segment rest ih =>
    cases h : registry.hop? entity segment <;> simp [walk, reach?, h, ih]

theorem walk_eq_error_iff {path : String} {entity : Entity} {segments : List String}
    {reason : Refusal} :
    registry.walk path entity segments = .error reason ↔
      ∃ segment, registry.firstBad? entity segments = some segment ∧
        reason = .unknownRelationSegment segment path := by
  induction segments generalizing entity with
  | nil => simp [walk, firstBad?]
  | cons segment rest ih =>
    cases h : registry.hop? entity segment
    · simp [walk, firstBad?, h, eq_comm]
    · simp [walk, firstBad?, h, ih]

end Registry

/-! ## Steps -/

/-- Whether the step goes on from what its parent reaches, by the relation of its last segment. -/
def JoinStep.Valid (registry : Registry) (root : Entity) (step : JoinStep) : Prop :=
  ∃ owner segment, step.hops = step.parent ++ [segment] ∧
    registry.reach? root step.parent = some owner ∧
    registry.hop? owner segment = some (step.relation, step.target)

namespace JoinPlan

variable {registry : Registry} {root : Entity}

theorem valid_unique {a b : JoinStep} (ha : a.Valid registry root) (hb : b.Valid registry root)
    (h : a.hops = b.hops) : a = b := by
  obtain ⟨owner, segment, hops, reached, hop⟩ := ha
  obtain ⟨owner', segment', hops', reached', hop'⟩ := hb
  have parents : a.parent = b.parent := by simp only [JoinStep.parent, h]
  have last : segment = segment' := by
    rw [hops, hops', parents] at h
    simpa using h
  rw [parents, reached'] at reached
  cases reached
  rw [last, hop'] at hop
  obtain ⟨hops, relation, target⟩ := a
  cases hop
  cases h
  rfl

theorem reach?_of_valid {step : JoinStep} (h : step.Valid registry root) :
    registry.reach? root step.hops = some step.target := by
  obtain ⟨owner, segment, hops, reached, hop⟩ := h
  rw [hops, Registry.reach?_append, reached, Option.bind_some, Registry.reach?, hop]
  rfl

theorem valid_hops_ne_nil {step : JoinStep} (h : step.Valid registry root) : step.hops ≠ [] := by
  obtain ⟨_, _, hops, _⟩ := h
  simp [hops]

theorem reaches_iff {steps : List JoinStep} {hops : List String} :
    reaches steps hops = true ↔ ∃ step ∈ steps, step.hops = hops := by
  simp [reaches]

theorem stepsAlong_eq_error_iff {path : String} {before : List String} {entity : Entity}
    {segments : List String} {reason : Refusal} :
    stepsAlong registry path before entity segments = .error reason ↔
      ∃ segment, registry.firstBad? entity segments = some segment ∧
        reason = .unknownRelationSegment segment path := by
  induction segments generalizing before entity with
  | nil => simp [stepsAlong, Registry.firstBad?]
  | cons segment rest ih =>
    cases h : registry.hop? entity segment
    · simp [stepsAlong, Registry.firstBad?, h, eq_comm]
    · simp [stepsAlong, Registry.firstBad?, h, map_eq_error_iff, ih]

theorem stepsAlong_isOk_iff {path : String} {before : List String} {entity : Entity}
    {segments : List String} :
    (∃ steps, stepsAlong registry path before entity segments = .ok steps) ↔
      (registry.reach? entity segments).isSome := by
  rw [← Registry.firstBad?_eq_none_iff]
  cases h : stepsAlong registry path before entity segments with
  | ok steps =>
    cases hb : registry.firstBad? entity segments with
    | none => simp
    | some segment =>
      rw [stepsAlong_eq_error_iff.2 ⟨segment, hb, rfl⟩] at h
      cases h
  | error reason =>
    obtain ⟨segment, hb, -⟩ := stepsAlong_eq_error_iff.1 h
    simp [hb]

/-- The steps along a run: one for each of its beginnings. -/
theorem mem_stepsAlong {path : String} {before : List String} {entity : Entity}
    {segments : List String} {steps : List JoinStep}
    (h : stepsAlong registry path before entity segments = .ok steps) {hops : List String} :
    (∃ step ∈ steps, step.hops = hops) ↔
      ∃ front back, front ≠ [] ∧ segments = front ++ back ∧ hops = before ++ front := by
  induction segments generalizing before entity steps with
  | nil =>
    cases h
    simp only [List.not_mem_nil, false_and, exists_false, false_iff]
    rintro ⟨front, back, hne, hs, -⟩
    exact hne (List.append_eq_nil_iff.1 hs.symm).1
  | cons segment rest ih =>
    cases hh : registry.hop? entity segment with
    | none => simp [stepsAlong, hh] at h
    | some hop =>
      simp only [stepsAlong, hh, map_eq_ok_iff] at h
      obtain ⟨more, hm, rfl⟩ := h
      simp only [List.mem_cons, exists_eq_or_imp, ih hm]
      constructor
      · rintro (rfl | ⟨front, back, hne, rfl, rfl⟩)
        · exact ⟨[segment], rest, by simp, rfl, rfl⟩
        · exact ⟨segment :: front, back, by simp, rfl, by simp⟩
      · rintro ⟨front, back, hne, hs, rfl⟩
        cases front with
        | nil => exact absurd rfl hne
        | cons first front =>
          obtain ⟨rfl, rfl⟩ := List.cons.inj hs
          cases front with
          | nil => exact .inl rfl
          | cons next front => exact .inr ⟨next :: front, back, by simp, rfl, by simp⟩

theorem stepsAlong_valid {path : String} {before : List String} {entity : Entity}
    {segments : List String} {steps : List JoinStep}
    (reached : registry.reach? root before = some entity)
    (h : stepsAlong registry path before entity segments = .ok steps) :
    ∀ step ∈ steps, step.Valid registry root := by
  induction segments generalizing before entity steps with
  | nil => cases h; simp
  | cons segment rest ih =>
    cases hh : registry.hop? entity segment with
    | none => simp [stepsAlong, hh] at h
    | some hop =>
      simp only [stepsAlong, hh, map_eq_ok_iff] at h
      obtain ⟨more, hm, rfl⟩ := h
      have next : registry.reach? root (before ++ [segment]) = some hop.2 := by
        simp [Registry.reach?_append, reached, Registry.reach?, hh]
      intro step hs
      rcases List.mem_cons.1 hs with rfl | hs
      · refine ⟨entity, segment, ?_, ?_, hh⟩ <;> simp [JoinStep.parent, reached]
      · exact ih next hm step hs

/-! ## Plans -/

/-- The steps of a plan: each is joined once, after what it goes on from. -/
inductive Planned (registry : Registry) (root : Entity) : List JoinStep → Prop
  | nil : Planned registry root []
  | snoc {steps : List JoinStep} {step : JoinStep} :
      Planned registry root steps → step.Valid registry root → reaches steps step.hops = false →
      (step.parent = [] ∨ reaches steps step.parent = true) →
      Planned registry root (steps ++ [step])

namespace Planned

theorem valid {steps : List JoinStep} (h : Planned registry root steps) :
    ∀ step ∈ steps, step.Valid registry root := by
  induction h with
  | nil => simp
  | snoc _ hv _ _ ih =>
    intro step hs
    rcases List.mem_append.1 hs with hs | hs
    · exact ih step hs
    · exact List.mem_singleton.1 hs ▸ hv

theorem closed {steps : List JoinStep} (h : Planned registry root steps) :
    ∀ step ∈ steps, step.parent = [] ∨ reaches steps step.parent = true := by
  induction h with
  | nil => simp
  | snoc _ _ _ hp ih =>
    intro step hs
    rcases List.mem_append.1 hs with hs | hs
    · exact (ih step hs).imp_right fun hr => by
        obtain ⟨other, ho, he⟩ := reaches_iff.1 hr
        exact reaches_iff.2 ⟨other, by simp [ho], he⟩
    · rw [List.mem_singleton.1 hs]
      exact hp.imp_right fun hr => by
        obtain ⟨other, ho, he⟩ := reaches_iff.1 hr
        exact reaches_iff.2 ⟨other, by simp [ho], he⟩

end Planned

theorem mem_extend_iff {steps new : List JoinStep}
    (hv : ∀ step ∈ steps ++ new, step.Valid registry root) {step : JoinStep} :
    step ∈ extend steps new ↔ step ∈ steps ∨ step ∈ new := by
  induction new generalizing steps with
  | nil => simp [extend]
  | cons next new ih =>
    have hnext := hv next (by simp)
    rw [extend, List.foldl_cons]
    split
    · rename_i hr
      obtain ⟨other, ho, he⟩ := reaches_iff.1 hr
      obtain rfl : other = next := valid_unique (hv other (by simp [ho])) hnext he
      rw [← extend, ih fun s hs => hv s ?_, List.mem_cons]
      · constructor
        · rintro (h | h)
          · exact .inl h
          · exact .inr (.inr h)
        · rintro (h | rfl | h)
          · exact .inl h
          · exact .inl ho
          · exact .inr h
      · rcases List.mem_append.1 hs with hs | hs <;> simp [hs]
    · rw [← extend, ih fun s hs => hv s (by simpa using hs)]
      simp [or_assoc]

theorem Planned.extend_along {path : String} {before : List String} {entity : Entity}
    {segments : List String} {steps new : List JoinStep} (h : Planned registry root steps)
    (reached : registry.reach? root before = some entity)
    (hb : before = [] ∨ reaches steps before = true)
    (hn : stepsAlong registry path before entity segments = .ok new) :
    Planned registry root (extend steps new) := by
  induction segments generalizing before entity steps new with
  | nil => cases hn; exact h
  | cons segment rest ih =>
    cases hh : registry.hop? entity segment with
    | none => simp [stepsAlong, hh] at hn
    | some hop =>
      have valid := stepsAlong_valid reached hn
      simp only [stepsAlong, hh, map_eq_ok_iff] at hn
      obtain ⟨more, hm, rfl⟩ := hn
      have next : registry.reach? root (before ++ [segment]) = some hop.2 := by
        simp [Registry.reach?_append, reached, Registry.reach?, hh]
      simp only [extend, List.foldl_cons]
      split
      · rename_i hr
        exact ih h next (.inr hr) hm
      · rename_i hr
        refine ih (h.snoc (valid _ List.mem_cons_self) (by simpa using hr) ?_) next (.inr ?_) hm
        · simpa [JoinStep.parent] using hb
        · simp [reaches]

/-! ## Building -/

/-- The refusal of the first path that cannot be followed. -/
def firstFault? (registry : Registry) (root : Entity) : List String → Option Refusal
  | [] => none
  | path :: paths =>
    if path.isEmpty then firstFault? registry root paths
    else
      match stepsOf registry root path with
      | .error reason => some reason
      | .ok _ => firstFault? registry root paths

theorem addRequired_eq (steps : List JoinStep) (paths : List String) :
    addRequired registry root steps paths =
      match firstFault? registry root paths with
      | some reason => .error reason
      | none => .ok (addOptional registry root steps paths) := by
  induction paths generalizing steps with
  | nil => rfl
  | cons path paths ih =>
    simp only [addRequired, firstFault?, addOptional]
    split
    · exact ih steps
    · cases stepsOf registry root path with
      | error reason => rfl
      | ok new => exact ih _

theorem addOptional_append (steps : List JoinStep) (paths others : List String) :
    addOptional registry root steps (paths ++ others) =
      addOptional registry root (addOptional registry root steps paths) others := by
  induction paths generalizing steps with
  | nil => rfl
  | cons path paths ih =>
    simp only [List.cons_append, addOptional]
    split
    · exact ih steps
    · cases stepsOf registry root path with
      | error reason => exact ih steps
      | ok new => exact ih _

theorem build_eq (required optional : List String) :
    build registry root required optional =
      match firstFault? registry root required with
      | some reason => .error reason
      | none => .ok ⟨registry, root, addOptional registry root [] (required ++ optional)⟩ := by
  rw [build, addRequired_eq, addOptional_append]
  cases firstFault? registry root required <;> rfl

theorem addOptional_spec {steps : List JoinStep} (h : Planned registry root steps)
    (paths : List String) :
    Planned registry root (addOptional registry root steps paths) ∧
      ∀ step, step ∈ addOptional registry root steps paths ↔
        step ∈ steps ∨ ∃ path ∈ paths, path ≠ "" ∧
          ∃ new, stepsOf registry root path = .ok new ∧ step ∈ new := by
  induction paths generalizing steps with
  | nil => simpa [addOptional] using h
  | cons path paths ih =>
    simp only [addOptional]
    split
    · rename_i he
      obtain ⟨planned, mem⟩ := ih h
      refine ⟨planned, fun step => ?_⟩
      simp_all
    · rename_i he
      cases hp : stepsOf registry root path with
      | error reason =>
        obtain ⟨planned, mem⟩ := ih h
        refine ⟨planned, fun step => ?_⟩
        simp_all
      | ok new =>
        have valid : ∀ step ∈ steps ++ new, step.Valid registry root := fun step hs =>
          (List.mem_append.1 hs).elim (h.valid step)
            (stepsAlong_valid rfl hp step)
        obtain ⟨planned, mem⟩ := ih (h.extend_along rfl (.inl rfl) hp)
        refine ⟨planned, fun step => ?_⟩
        rw [mem, mem_extend_iff valid]
        simp_all [or_assoc]

/-- A plan holds the steps along the paths that it was asked for, as far as they can be followed,
and nothing else. -/
theorem build_spec {required optional : List String} {plan : JoinPlan}
    (h : build registry root required optional = .ok plan) :
    plan.registry = registry ∧ plan.root = root ∧ Planned registry root plan.steps ∧
      ∀ step, step ∈ plan.steps ↔ ∃ path ∈ required ++ optional, path ≠ "" ∧
        ∃ new, stepsOf registry root path = .ok new ∧ step ∈ new := by
  rw [build_eq] at h
  split at h
  · cases h
  · cases h
    obtain ⟨planned, mem⟩ := addOptional_spec (Planned.nil : Planned registry root [])
      (required ++ optional)
    exact ⟨rfl, rfl, planned, fun step => by simpa using mem step⟩

end JoinPlan

end RecordListing
