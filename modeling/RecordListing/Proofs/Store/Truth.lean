import RecordListing.Proofs.Query.Columns

/-!
# Three truths

A comparison with a cell that is not empty is unknown only for an empty cell, and the opposite
comparison has the opposite truth. A cell is one of several if it equals one of them, and none of
them if it differs from each.
-/

set_option autoImplicit false

namespace RecordListing

section
variable {a b : Truth} {p : Prop}

theorem Truth.ofBool_eq_yes {b : Bool} : Truth.ofBool b = .yes ↔ b = true := by
  cases b <;> simp [Truth.ofBool]

theorem Truth.not_and (a b : Truth) : (a.and b).not = a.not.or b.not := by
  cases a <;> cases b <;> rfl

theorem Truth.not_eq_yes : a.not = .yes ↔ a = .no := by
  cases a <;> simp [Truth.not]

theorem Truth.or_eq_no : a.or b = .no ↔ a = .no ∧ b = .no := by
  cases a <;> cases b <;> simp [Truth.or]

/-- Two truths that are unknown in the same case are, taken together, unknown in that case. -/
theorem Truth.and_eq_unknown (ha : a = .unknown ↔ p) (hb : b = .unknown ↔ p) :
    a.and b = .unknown ↔ p := by
  cases a <;> cases b <;> simp_all [Truth.and]

theorem Truth.or_eq_unknown (ha : a = .unknown ↔ p) (hb : b = .unknown ↔ p) :
    a.or b = .unknown ↔ p := by
  cases a <;> cases b <;> simp_all [Truth.or]

end

namespace Cell

variable {cell other : Cell} {others : List Cell}

theorem test_eq_unknown (wanted : Ordering → Bool) (present : other.isNull = false) :
    test wanted cell other = .unknown ↔ cell = .null := by
  rw [test, present, Bool.or_false]
  cases h : cell.isNull with
  | true => exact iff_of_true rfl (of_decide_eq_true h)
  | false =>
    refine iff_of_false ?_ (of_decide_eq_false h)
    cases wanted (compare cell other) <;> simp [Truth.ofBool]

/-- The opposite comparison gives the opposite truth. -/
theorem not_test (comparison opposite : Comparison)
    (h : ∀ o, opposite.wants o = !comparison.wants o) (a b : Cell) :
    (test comparison.wants a b).not = test opposite.wants a b := by
  unfold test
  rw [h]
  split
  · rfl
  · cases comparison.wants (compare a b) <;> rfl

theorem among_eq_yes :
    cell.among others = .yes ↔ ∃ other ∈ others, test (· == .eq) cell other = .yes := by
  induction others with
  | nil => simp [among]
  | cons other others ih =>
    simp only [List.mem_cons, exists_eq_or_imp, ← ih]
    exact Condition.or_eq_yes

theorem among_eq_no :
    cell.among others = .no ↔ ∀ other ∈ others, test (· == .eq) cell other = .no := by
  induction others with
  | nil => simp [among]
  | cons other others ih =>
    rw [List.forall_mem_cons, ← ih]
    exact Truth.or_eq_no

theorem among_eq_unknown (some_other : others ≠ [])
    (present : ∀ other ∈ others, other.isNull = false) :
    cell.among others = .unknown ↔ cell = .null := by
  induction others with
  | nil => exact absurd rfl some_other
  | cons other others ih =>
    obtain ⟨first, rest⟩ := List.forall_mem_cons.1 present
    have tested : test (· == .eq) cell other = .unknown ↔ cell = .null :=
      test_eq_unknown _ first
    cases others with
    | nil =>
      refine Iff.trans ?_ tested
      cases h : test (· == .eq) cell other <;> simp [among, h, Truth.or]
    | cons next others => exact Truth.or_eq_unknown tested (ih (List.cons_ne_nil _ _) rest)

end Cell

end RecordListing
