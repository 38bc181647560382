import RecordListing.Proofs.Query.JoinPlan

/-!
# Relations in front of a column

The relations in front of the column of a path make a path of their own, which is planned as the
same relations (`stepsOf_relationHops`). A plan covers a path if it has joined these relations,
unless they cannot be followed; then it resolves the path as the entity does (`resolve_eq`), so that
no join is ever missing.
-/

set_option autoImplicit false

namespace RecordListing

open Text Outcome

/-! ## Paths of relations -/

theorem Entity.relation?_named {entity : Entity} {name : String} {relation : Relation}
    (h : entity.relation? name = some relation) : name ≠ "" := by
  have hname : relation.name = name := by simpa using List.find?_some h
  exact hname ▸ relation.named

theorem Entity.relationHops_cases (root : Entity) (path : String) :
    root.relationHops path = [] ∨
      root.relationHops path = (pathSegments path).dropLast ∧
        ∃ first rest, root.relationHops path = first :: rest ∧ (root.relation? first).isSome := by
  unfold relationHops
  split
  · rename_i first second rest hs
    split
    · rename_i hr
      exact .inr ⟨by rw [hs], first, (second :: rest).dropLast, rfl, hr⟩
    · exact .inl rfl
  · exact .inl rfl

theorem pathSegments_pathText {hops : List String} (hne : hops ≠ [])
    (h : ∀ hop ∈ hops, '.' ∉ hop.toList) : pathSegments (pathText hops) = hops :=
  pieces_joined hne h

theorem pathText_ne_empty {first : String} (rest : List String) (h : first ≠ "") :
    pathText (first :: rest) ≠ "" := by
  cases rest with
  | nil => simpa [pathText, joined] using h
  | cons next rest => simp [pathText, joined, h]

section
variable {root : Entity} {path : String} (hne : root.relationHops path ≠ [])
include hne

theorem pathText_relationHops_ne_empty : pathText (root.relationHops path) ≠ "" := by
  obtain ⟨-, first, rest, hf, hr⟩ := (root.relationHops_cases path).resolve_left hne
  obtain ⟨relation, hrel⟩ := Option.isSome_iff_exists.1 hr
  rw [hf]
  exact pathText_ne_empty rest (Entity.relation?_named hrel)

theorem pathSegments_relationHops :
    pathSegments (pathText (root.relationHops path)) = root.relationHops path := by
  obtain ⟨hd, -⟩ := (root.relationHops_cases path).resolve_left hne
  refine pathSegments_pathText hne fun hop hm => ?_
  rw [hd] at hm
  exact not_mem_of_mem_pieces (List.dropLast_subset _ hm)

theorem stepsOf_relationHops (registry : Registry) :
    JoinPlan.stepsOf registry root (pathText (root.relationHops path)) =
      JoinPlan.stepsAlong registry (pathText (root.relationHops path)) [] root
        (root.relationHops path) := by
  rw [JoinPlan.stepsOf, pathSegments_relationHops hne]

end

/-! ## Resolving -/

/-- What resolving comes to when the relations in front of the column can be followed. -/
theorem Entity.resolve_of_reach {registry : Registry} {root target : Entity} {path : String}
    (hne : root.relationHops path ≠ [])
    (reached : registry.reach? root (root.relationHops path) = some target) :
    root.resolve registry path =
      match target.column? ((pathSegments path).getLast?.getD "") with
      | none => .error (.unknownField path target.name)
      | some column => .ok ⟨path, root.relationHops path, column, target⟩ := by
  unfold Entity.resolve
  split
  · rename_i he
    exact absurd he hne
  · cases column : target.column? ((pathSegments path).getLast?.getD "") <;>
      simp only [Registry.walk_eq_ok_iff.2 reached, column]

theorem Entity.resolve_eq_ok {registry : Registry} {root : Entity} {path : String} {field : Field}
    (h : root.resolve registry path = .ok field) :
    field.hops = root.relationHops path ∧
      registry.reach? root (root.relationHops path) = some field.entity := by
  unfold Entity.resolve at h
  split at h
  · rename_i he
    split at h <;> cases h
    simp [he, Registry.reach?]
  · split at h
    · cases h
    · rename_i target hw
      split at h <;> cases h
      exact ⟨rfl, Registry.walk_eq_ok_iff.1 hw⟩

theorem Entity.resolve_eq_error {registry : Registry} {root : Entity} {path : String}
    {reason : Refusal} (h : root.resolve registry path = .error reason) :
    (∃ segment, reason = .unknownRelationSegment segment path) ∨
      ∃ entity, reason = .unknownField path entity := by
  unfold Entity.resolve at h
  split at h
  · split at h <;> cases h
    exact .inr ⟨_, rfl⟩
  · split at h
    · rename_i hw
      cases h
      obtain ⟨segment, -, rfl⟩ := Registry.walk_eq_error_iff.1 hw
      exact .inl ⟨segment, rfl⟩
    · split at h <;> cases h
      exact .inr ⟨_, rfl⟩

namespace JoinPlan

/-- Whether the plan has joined the relations in front of a path's column, if they lead anywhere. -/
def Covers (plan : JoinPlan) (path : String) : Prop :=
  let hops := plan.root.relationHops path
  hops = [] ∨ plan.registry.reach? plan.root hops = none ∨ reaches plan.steps hops = true

theorem resolve_eq {plan : JoinPlan} {path : String} (h : plan.Covers path) :
    plan.resolve path = (plan.root.resolve plan.registry path).map fun field =>
      (field, ⟨field.hops, field.column⟩) := by
  unfold resolve
  cases hr : plan.root.resolve plan.registry path with
  | error reason => rfl
  | ok field =>
    obtain ⟨hops, reached⟩ := Entity.resolve_eq_ok hr
    have joined : (field.hops.isEmpty || reaches plan.steps field.hops) = true := by
      rcases h with h | h | h
      · simp [hops, h]
      · rw [h] at reached
        cases reached
      · simp [hops, h]
    simp [joined]

/-- A plan resolves a path to the field that its root resolves it to, and to its column. -/
theorem resolve_eq_ok {plan : JoinPlan} {path : String} {field : Field} {column : ColumnRef}
    (h : plan.resolve path = .ok (field, column)) :
    plan.root.resolve plan.registry path = .ok field ∧ column = ⟨field.hops, field.column⟩ := by
  unfold resolve at h
  split at h
  · cases h
  · rename_i hr
    split at h
    · cases h
      exact ⟨hr, rfl⟩
    · cases h

theorem resolve_congr {plan other : JoinPlan} {path : String} (h : plan.Covers path)
    (h' : other.Covers path) (hroot : plan.root = other.root)
    (hregistry : plan.registry = other.registry) : plan.resolve path = other.resolve path := by
  rw [resolve_eq h, resolve_eq h', hroot, hregistry]

end JoinPlan

end RecordListing
