import RecordListing.Proofs.Records.Pages

/-!
# What may be seen

Looking for a record and listing records hide the same rows, those that are marked as deleted
(`Entity.Marked`). So after every run of calls a record is found by its key exactly if it stands on
one of the pages of its entity (`found_iff_listed`).
-/

set_option autoImplicit false

namespace RecordListing

open Outcome

/-! ## Marked rows -/

/-- Whether a column marks deleted rows: the one of that property, or else of that physical name. -/
def Entity.MarksWith (entity : Entity) (column : Column) : Prop :=
  entity.columns.find? (·.property = "deleted_at") = some column ∨
    (∀ other ∈ entity.columns, other.property ≠ "deleted_at") ∧
      entity.columns.find? (·.physical = "deleted_at") = some column

/-- Whether a row is marked as deleted. -/
def Entity.Marked (entity : Entity) (row : Row) : Prop :=
  ∃ column, entity.MarksWith column ∧ row.cell column.physical ≠ .null

section
variable {entity : Entity} {row : Row}

theorem deletionColumn?_eq_some_iff {column : Column} :
    entity.deletionColumn? = some column ↔ entity.MarksWith column := by
  have only : otherSpelling? Entity.deletionName = none := rfl
  have named : entity.deletionColumn? = (entity.columns.find? (·.property = "deleted_at")).orElse
      fun _ => entity.columns.find? (·.physical = "deleted_at") := by
    rw [Entity.deletionColumn?, Entity.column?, only]
    cases h : entity.namedColumn? Entity.deletionName with
    | some column => exact h.symm
    | none => exact h.symm
  rw [named, Entity.MarksWith]
  cases property : entity.columns.find? (·.property = "deleted_at") with
  | some first =>
    have has := List.find?_some property
    have mem := List.mem_of_find?_eq_some property
    constructor
    · intro h
      exact .inl h
    · rintro (h | ⟨none_named, -⟩)
      · exact h
      · exact absurd (of_decide_eq_true has) (none_named first mem)
  | none =>
    have none_named := List.find?_eq_none.1 property
    constructor
    · intro h
      exact .inr ⟨fun c hc he => none_named c hc (decide_eq_true he), h⟩
    · rintro (h | ⟨-, h⟩)
      · cases h
      · exact h

theorem isDeleted_iff : entity.isDeleted row = true ↔ entity.Marked row := by
  simp only [Entity.Marked, ← deletionColumn?_eq_some_iff, Entity.isDeleted, Cell.isNull]
  cases entity.deletionColumn? <;> simp

theorem shows_iff_not_marked {withDeleted : Bool} :
    entity.Shows withDeleted row ↔ withDeleted = true ∨ ¬ entity.Marked row := by
  rw [Entity.Shows, ← isDeleted_iff, Bool.not_eq_true]

end

/-! ## Records and pages -/

/-- After every run of calls, a record is found by a key exactly if it stands with that key on one
of the pages of its entity, once, and other keys are refused as not found. Both hide the rows that
are marked as deleted, unless these are asked for. What is no key at all is not looked for. -/
theorem found_iff_listed {registry : Registry} {name : String} {entity : Entity} {key : Column}
    {start : Database} (wellFormed : registry.WellFormed)
    (known : registry.find? name = some entity) (single : entity.keyColumns = [key])
    (intact : start.Intact entity) (defaults : Defaults) (calls : List Call) (withDeleted : Bool)
    {limit : Nat} (hl : 1 ≤ limit) (fits : Cell.fitsInt limit = true) :
    let db := Call.performAll defaults registry calls start
    ∃ rows, listAll defaults registry db name withDeleted limit = .ok rows ∧ rows.Nodup ∧
      (∀ row, row ∈ rows ↔
        row ∈ db.rows entity.table ∧ (withDeleted = true ∨ ¬ entity.Marked row)) ∧
      (∀ id cell, key.Takes id cell →
        (∀ row, findRecord db registry name id [] withDeleted = .ok (entity, row) ↔
          row ∈ rows ∧ (row.cell key.physical).same cell = true) ∧
        ((∀ row ∈ rows, (row.cell key.physical).same cell = false) →
          findRecord db registry name id [] withDeleted = refuse (.recordNotFound name id))) ∧
      ∀ id, (∀ cell, ¬ key.Takes id cell) →
        ∃ failure, findRecord db registry name id [] withDeleted = .error failure ∧
          (key.Fits id → failure = .refusal (.invalidFilterValue key.property key.kind)) := by
  intro db
  have keyed : entity.keyColumns ≠ [] := by simp [single]
  have intact_db : db.Intact entity :=
    Call.performAll_intact wellFormed (List.mem_of_find?_eq_some known) intact calls
  obtain ⟨rows, listed, nodup, mem_rows⟩ :=
    listAll_eq known keyed intact_db defaults withDeleted hl fits
  refine ⟨rows, listed, nodup, fun row => ?_,
    fun id cell takes => ⟨fun row => ?_, fun absent => ?_⟩,
    fun id stray => findRecord_stray withDeleted known single stray⟩
  · rw [mem_rows, shows_iff_not_marked]
  · rw [mem_rows]
    exact findRecord_eq_ok_iff withDeleted known intact_db single takes
  · exact findRecord_refused withDeleted known intact_db single takes fun row stored shown =>
      absent row ((mem_rows row).2 ⟨stored, shown⟩)

theorem found_iff_listed_shelves :
    let db := Call.performAll {} Retail.registry Retail.shelfCalls Retail.shelves
    let key : Column := { Column.plain "id" .uuid with initial := .generated }
    ∃ rows, listAll {} Retail.registry db "category" true 1 = .ok rows ∧ rows.Nodup ∧
      (∀ row, row ∈ rows ↔
        row ∈ db.rows "categories" ∧ (true = true ∨ ¬ Retail.category.Marked row)) ∧
      (∀ id cell, key.Takes id cell →
        (∀ row, findRecord db Retail.registry "category" id [] true = .ok (Retail.category, row) ↔
          row ∈ rows ∧ (row.cell "id").same cell = true) ∧
        ((∀ row ∈ rows, (row.cell "id").same cell = false) →
          findRecord db Retail.registry "category" id [] true =
            refuse (.recordNotFound "category" id))) ∧
      ∀ id, (∀ cell, ¬ key.Takes id cell) →
        ∃ failure, findRecord db Retail.registry "category" id [] true = .error failure ∧
          (key.Fits id → failure = .refusal (.invalidFilterValue "id" .uuid)) :=
  found_iff_listed Retail.registry_wellFormed rfl rfl Retail.shelves_intact {} Retail.shelfCalls
    true (by decide) (by decide)

end RecordListing
