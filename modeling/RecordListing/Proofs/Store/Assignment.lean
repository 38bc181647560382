import RecordListing.Proofs.Query.Columns

/-!
# Assignments of related rows

The ways to join a row of the root are the assignments of a related row to every run of relations of
the plan, of nothing where there is no related row (`mem_joinedRows_iff`). An assignment for one
plan can be carried over to any other plan of the same root: it keeps the rows that both plans reach
(`exists_follows`), since a join never drops a row.
-/

set_option autoImplicit false

namespace RecordListing

open JoinPlan

namespace JoinStep

/-- The rows that the step finds for what its parent has come to. -/
def found (step : JoinStep) (db : Database) (parent? : Option Row) : List Row :=
  match parent? with
  | none => []
  | some parent => db.linked step.relation.link step.target.table parent

/-- Whether the step may go on to a row, or to nothing, which it does if it finds no row. -/
def GoesTo (step : JoinStep) (db : Database) (parent? : Option Row) : Option Row → Prop
  | some row => row ∈ step.found db parent?
  | none => step.found db parent? = []

theorem exists_goesTo (step : JoinStep) (db : Database) (parent? : Option Row) :
    ∃ row?, step.GoesTo db parent? row? := by
  cases h : step.found db parent? with
  | nil => exact ⟨none, h⟩
  | cons row rows => exact ⟨some row, by simp [GoesTo, h]⟩

end JoinStep

/-- A related row, or nothing, for each run of relations. -/
abbrev Assignment := List String → Option Row

namespace Assignment

/-- The row that relations lead to; none at all lead to the root. -/
def rowAt (a : Assignment) (root : Row) (hops : List String) : Option Row :=
  if hops = [] then some root else a hops

/-- Whether the assignment goes where the step may go. -/
def Follows (a : Assignment) (db : Database) (root : Row) (step : JoinStep) : Prop :=
  step.GoesTo db (a.rowAt root step.parent) (a step.hops)

/-- The row of the root with what is assigned to the steps. -/
def joined (a : Assignment) (root : Row) (steps : List JoinStep) : JoinedRow :=
  ⟨root, steps.map fun step => (step.hops, a step.hops)⟩

/-- The assignment with another row for one run of relations. -/
def set (a : Assignment) (hops : List String) (row? : Option Row) : Assignment :=
  fun other => if other = hops then row? else a other

@[simp] theorem set_self (a : Assignment) (hops : List String) (row? : Option Row) :
    a.set hops row? hops = row? := by
  simp [set]

theorem set_other (a : Assignment) {hops other : List String} (row? : Option Row)
    (h : other ≠ hops) : a.set hops row? other = a other := by
  simp [set, h]

theorem rowAt_congr {a b : Assignment} (root : Row) {hops : List String}
    (h : hops = [] ∨ b hops = a hops) : b.rowAt root hops = a.rowAt root hops := by
  rcases h with h | h <;> simp [rowAt, h]

theorem Follows.congr {a b : Assignment} {db : Database} {root : Row} {step : JoinStep}
    (h : a.Follows db root step) (parent : step.parent = [] ∨ b step.parent = a step.parent)
    (hops : b step.hops = a step.hops) : b.Follows db root step := by
  rw [Follows, rowAt_congr root parent, hops]
  exact h

theorem lookup_joined (a : Assignment) (steps : List JoinStep) (hops : List String) :
    ((steps.map fun step => (step.hops, a step.hops)).lookup hops).join =
      if reaches steps hops then a hops else none := by
  induction steps with
  | nil => rfl
  | cons step steps ih =>
    by_cases h : step.hops = hops
    · subst h
      simp [reaches]
    · have hb : (hops == step.hops) = false := by simpa using fun e => h e.symm
      have hr : reaches (step :: steps) hops = reaches steps hops := by simp [reaches, h]
      rw [List.map_cons, List.lookup_cons, hb, hr, ih]

theorem joined_row? (a : Assignment) (root : Row) (steps : List JoinStep) (hops : List String) :
    (a.joined root steps).row? hops =
      if hops = [] ∨ reaches steps hops = true then a.rowAt root hops else none := by
  by_cases h : hops = []
  · simp [JoinedRow.row?, rowAt, joined, h]
  · simp [JoinedRow.row?, rowAt, joined, lookup_joined, h]

theorem joined_cell (a : Assignment) (root : Row) {steps : List JoinStep} {column : ColumnRef}
    (h : column.hops = [] ∨ reaches steps column.hops = true) :
    (a.joined root steps).cell column =
      ((a.rowAt root column.hops).map fun row => row.cell column.column.physical).getD .null := by
  rw [JoinedRow.cell, joined_row?, if_pos h]

/-! ### One step more -/

section
variable {registry : Registry} {entity : Entity} {steps : List JoinStep} {step : JoinStep}
    (planned : Planned registry entity steps) (fresh : reaches steps step.hops = false)
    (a : Assignment) (row? : Option Row)
include fresh

theorem set_fresh {hops : List String} (h : reaches steps hops = true) :
    a.set step.hops row? hops = a hops := by
  refine a.set_other row? ?_
  rintro rfl
  rw [fresh] at h
  cases h

theorem joined_set (root : Row) :
    (a.set step.hops row?).joined root (steps ++ [step]) =
      ⟨root, (a.joined root steps).related ++ [(step.hops, row?)]⟩ := by
  have kept : ∀ other ∈ steps,
      (other.hops, a.set step.hops row? other.hops) = (other.hops, a other.hops) :=
    fun other ho => by rw [set_fresh fresh a row? (reaches_iff.2 ⟨other, ho, rfl⟩)]
  simp [joined, List.map_congr_left kept]

include planned in
/-- A new step is assigned a row beside the steps before it, which stay as they are. -/
theorem follows_set {db : Database} {root : Row}
    (hp : step.parent = [] ∨ reaches steps step.parent = true)
    (h : ∀ other ∈ steps, a.Follows db root other)
    (goes : step.GoesTo db (a.rowAt root step.parent) row?) :
    ∀ other ∈ steps ++ [step], (a.set step.hops row?).Follows db root other := by
  intro other ho
  rcases List.mem_append.1 ho with ho | ho
  · exact (h other ho).congr ((planned.closed other ho).imp_right (set_fresh fresh a row?))
      (set_fresh fresh a row? (reaches_iff.2 ⟨other, ho, rfl⟩))
  · obtain rfl := List.mem_singleton.1 ho
    rw [Follows, rowAt_congr root (hp.imp_right (set_fresh fresh a row?)), set_self]
    exact goes

end

end Assignment

/-! ## Joined rows -/

section
variable {registry : Registry} {entity : Entity} {db : Database} {root : Row}

theorem extend_of_found_nil {step : JoinStep} {joined : JoinedRow}
    (h : step.found db (joined.row? step.parent) = []) :
    JoinedRow.extend db step joined = [⟨joined.root, joined.related ++ [(step.hops, none)]⟩] := by
  unfold JoinStep.found at h
  unfold JoinedRow.extend
  cases hp : joined.row? step.parent with
  | none => rfl
  | some parent =>
    simp only [hp] at h
    simp only [h]

theorem extend_of_found_cons {step : JoinStep} {joined : JoinedRow} {first : Row} {rest : List Row}
    (h : step.found db (joined.row? step.parent) = first :: rest) :
    JoinedRow.extend db step joined =
      (first :: rest).map fun row => ⟨joined.root, joined.related ++ [(step.hops, some row)]⟩ := by
  unfold JoinStep.found at h
  unfold JoinedRow.extend
  cases hp : joined.row? step.parent with
  | none =>
    simp only [hp] at h
    cases h
  | some parent =>
    simp only [hp] at h
    simp only [h]

/-- A joined row is extended by all that the step may go to. -/
theorem mem_extend_joined {step : JoinStep} {joined way : JoinedRow} :
    way ∈ JoinedRow.extend db step joined ↔
      ∃ row?, step.GoesTo db (joined.row? step.parent) row? ∧
        way = ⟨joined.root, joined.related ++ [(step.hops, row?)]⟩ := by
  cases hf : step.found db (joined.row? step.parent) with
  | nil =>
    rw [extend_of_found_nil hf, List.mem_singleton]
    constructor
    · rintro rfl
      exact ⟨none, hf, rfl⟩
    · rintro ⟨_ | row, goes, rfl⟩
      · rfl
      · simp [JoinStep.GoesTo, hf] at goes
  | cons first rest =>
    rw [extend_of_found_cons hf, List.mem_map]
    constructor
    · rintro ⟨row, hr, rfl⟩
      exact ⟨some row, by rw [JoinStep.GoesTo, hf]; exact hr, rfl⟩
    · rintro ⟨_ | row, goes, rfl⟩
      · simp [JoinStep.GoesTo, hf] at goes
      · rw [JoinStep.GoesTo, hf] at goes
        exact ⟨row, goes, rfl⟩

/-- The ways to join a row are the assignments that follow every step. -/
theorem mem_joinedRows_iff {steps : List JoinStep} (planned : Planned registry entity steps)
    {way : JoinedRow} :
    way ∈ joinedRows db steps root ↔
      ∃ a : Assignment, (∀ step ∈ steps, a.Follows db root step) ∧ way = a.joined root steps := by
  induction planned generalizing way with
  | nil =>
    simp only [joinedRows, List.foldl_nil, List.mem_singleton]
    exact ⟨fun h => ⟨fun _ => none, by simp, h⟩, fun ⟨_, _, h⟩ => h⟩
  | @snoc steps step planned _ fresh hp ih =>
    rw [joinedRows, List.foldl_append, List.foldl_cons, List.foldl_nil, List.mem_flatMap]
    have parent (a : Assignment) :
        (a.joined root steps).row? step.parent = a.rowAt root step.parent := by
      rw [Assignment.joined_row?, if_pos hp]
    constructor
    · rintro ⟨before, hb, hw⟩
      obtain ⟨a, follows, rfl⟩ := ih.1 hb
      obtain ⟨row?, goes, rfl⟩ := mem_extend_joined.1 hw
      rw [parent] at goes
      exact ⟨a.set step.hops row?, Assignment.follows_set planned fresh a row? hp follows goes,
        (Assignment.joined_set fresh a row? root).symm⟩
    · rintro ⟨a, follows, rfl⟩
      refine ⟨a.joined root steps,
        ih.2 ⟨a, fun other ho => follows other (List.mem_append_left _ ho), rfl⟩,
        mem_extend_joined.2 ⟨a step.hops, ?_, by simp [Assignment.joined]⟩⟩
      rw [parent]
      exact follows step (by simp)

theorem root_of_mem_joinedRows {steps : List JoinStep} (planned : Planned registry entity steps)
    {way : JoinedRow} (h : way ∈ joinedRows db steps root) : way.root = root := by
  obtain ⟨a, -, rfl⟩ := (mem_joinedRows_iff planned).1 h
  rfl

end

/-! ## Rows of tables -/

theorem Database.linked_subset (db : Database) (link : Link) (table : String) (row : Row) :
    db.linked link table row ⊆ db.rows table := by
  intro other ho
  cases link with
  | toOne foreignKey targetKey => exact (List.mem_filter.1 ho).1
  | toMany ownerKey foreignKey => exact (List.mem_filter.1 ho).1
  | through between ownerKey ownerReference targetKey targetReference =>
    obtain ⟨pair, -, ho⟩ := List.mem_flatMap.1 ho
    exact (List.mem_filter.1 ho).1

theorem Assignment.Follows.mem_rows {a : Assignment} {db : Database} {root row : Row}
    {step : JoinStep} (h : a.Follows db root step) (assigned : a step.hops = some row) :
    row ∈ db.rows step.target.table := by
  rw [Follows, assigned, JoinStep.GoesTo] at h
  unfold JoinStep.found at h
  split at h
  · cases h
  · exact db.linked_subset _ _ _ h

/-- The row that relations are assigned is one of the table that they lead to. -/
theorem Assignment.mem_rows {registry : Registry} {root target : Entity} {steps : List JoinStep}
    (planned : Planned registry root steps) {db : Database} {a : Assignment} {row found : Row}
    (hrow : row ∈ db.rows root.table) (follows : ∀ step ∈ steps, a.Follows db row step)
    {hops : List String} (joined : hops = [] ∨ reaches steps hops = true)
    (reached : registry.reach? root hops = some target) (assigned : a.rowAt row hops = some found) :
    found ∈ db.rows target.table := by
  rcases joined with rfl | joined
  · cases reached
    cases assigned
    exact hrow
  · obtain ⟨step, hs, rfl⟩ := reaches_iff.1 joined
    have valid := planned.valid step hs
    rw [reach?_of_valid valid] at reached
    cases reached
    rw [rowAt, if_neg (valid_hops_ne_nil valid)] at assigned
    exact (follows step hs).mem_rows assigned

/-! ## Other plans -/

/-- An assignment for one plan, carried over to another one. -/
theorem exists_follows {registry : Registry} {entity : Entity} {steps others : List JoinStep}
    (planned : Planned registry entity steps) (planned' : Planned registry entity others)
    {db : Database} {root : Row} {a : Assignment} (h : ∀ step ∈ steps, a.Follows db root step) :
    ∃ b : Assignment, (∀ step ∈ others, b.Follows db root step) ∧
      ∀ hops, reaches steps hops = true → b hops = a hops := by
  induction planned' with
  | nil => exact ⟨a, by simp, fun _ _ => rfl⟩
  | @snoc others step planned' valid fresh hp ih =>
    obtain ⟨b, follows, agree⟩ := ih
    by_cases hr : reaches steps step.hops = true
    · refine ⟨b, fun other ho => ?_, agree⟩
      rcases List.mem_append.1 ho with ho | ho
      · exact follows other ho
      · obtain rfl := List.mem_singleton.1 ho
        obtain ⟨same, hs, he⟩ := reaches_iff.1 hr
        obtain rfl := valid_unique (planned.valid same hs) valid he
        exact (h same hs).congr ((planned.closed same hs).imp_right (agree _)) (agree _ hr)
    · -- the other plan goes where this one does not, to any row that it finds
      obtain ⟨row?, goes⟩ := step.exists_goesTo db (b.rowAt root step.parent)
      refine ⟨b.set step.hops row?, Assignment.follows_set planned' fresh b row? hp follows goes,
        fun hops hh => ?_⟩
      rw [b.set_other row?]
      · exact agree hops hh
      · rintro rfl
        exact hr hh

/-- An assignment that meets conditions along one plan is carried over to another one that joins the
columns that they test. -/
theorem exists_met {registry : Registry} {entity : Entity} {plan other : JoinPlan}
    (planned : Planned registry entity plan.steps) (planned' : Planned registry entity other.steps)
    {conditions : List Condition}
    (known : ∀ condition ∈ conditions,
      condition.Over fun column => plan.Has column ∧ other.Has column)
    {db : Database} {root : Row} {a : Assignment}
    (follows : ∀ step ∈ plan.steps, a.Follows db root step)
    (met : Met (a.joined root plan.steps) conditions) :
    ∃ b : Assignment, (∀ step ∈ other.steps, b.Follows db root step) ∧
      Met (b.joined root other.steps) conditions ∧
      ∀ column, plan.Has column → other.Has column →
        (b.joined root other.steps).cell column = (a.joined root plan.steps).cell column := by
  obtain ⟨b, follows', agree⟩ := exists_follows planned planned' follows
  have same (column : ColumnRef) (has : plan.Has column) (has' : other.Has column) :
      (b.joined root other.steps).cell column = (a.joined root plan.steps).cell column := by
    rw [b.joined_cell root has', a.joined_cell root has,
      Assignment.rowAt_congr root (has.imp_right (agree _))]
  refine ⟨b, follows', fun condition hc => ?_, same⟩
  rw [Condition.truth_congr ((known condition hc).imp fun column has => same column has.1 has.2)]
  exact met condition hc

end RecordListing
