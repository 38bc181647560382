import RecordListing.Proofs.Records.Visibility

/-!
# Marking records as deleted

Marking a record writes the current time to one row and touches nothing else (`markRow_stamps`). A
row that is marked is not found any more, so no call marks it again or removes it
(`perform_keeps_marked`), and it stays as it was marked over every run of calls
(`softDelete_stamps`).
-/

set_option autoImplicit false

namespace RecordListing

open Outcome

/-! ## One row is marked -/

/-- Whether a row is another one with the column that marks it, and those that every change sets, at
some time. -/
def Entity.Stamped (entity : Entity) (mark : Column) (now : Timestamp) (before after : Row) :
    Prop :=
  ∀ name, after.cell name =
    if name = mark.physical ∨ name ∈ entity.refreshedColumns.map (·.physical) then timeCell now
    else before.cell name

/-- Whether a database is another one of which one row of an entity was marked as deleted: no other
row and no other table differs. -/
structure Entity.Stamps (entity : Entity) (mark : Column) (now : Timestamp) (row : Row)
    (before after : Database) : Prop where
  others : ∀ table, table ≠ entity.table → after.rows table = before.rows table
  rows : ∃ stamped, entity.Stamped mark now row stamped ∧
    after.rows entity.table =
      (before.rows entity.table).map fun other => if other = row then stamped else other

section
variable {db : Database} {registry : Registry} {entity : Entity}

theorem markRow_stamps (distinct : db.KeysDistinct entity) (mark : Column) (now : Timestamp)
    {row : Row} (stored : row ∈ db.rows entity.table) :
    entity.Stamps mark now row db (markRow now entity mark row db) where
  others := by
    intro table apart
    rw [markRow_rows, if_neg apart]
  rows := by
    refine ⟨(refresh now entity row).set mark.physical (timeCell now), fun name => ?_, ?_⟩
    · rw [Row.cell_set, cell_refresh]
      by_cases own : name = mark.physical <;> simp [own]
    · rw [markRow_rows, if_pos rfl]
      refine List.map_congr_left fun other ho => ?_
      by_cases same : other = row
      · have self : sameKey entity row row = true := equalKeys_self _
        rw [same, if_pos self, if_pos rfl]
      · have apart : sameKey entity row other = false := by
          by_contra h
          exact same (unique_of_pairwise distinct stored ho (Bool.of_not_eq_false h)).symm
        rw [if_neg same, apart]
        rfl

/-- Marking looks for the record first. -/
theorem softDeleteRecord_eq {name : String} {mark : Column}
    (known : registry.find? name = some entity) (marks : entity.deletionColumn? = some mark)
    (now : Timestamp) (id : Value) :
    softDeleteRecord db registry now name id =
      (findRow db registry entity id [] false).map fun row =>
        ⟨name ++ " soft-deleted successfully.", markRow now entity mark row db⟩ := by
  have get : registry.get name = .ok entity := Registry.get_eq_ok_iff.2 known
  simp only [softDeleteRecord, get, ok_bind, marks]
  cases findRow db registry entity id [] false <;> rfl

theorem shows_iff_null {mark : Column} (marks : entity.deletionColumn? = some mark) {row : Row} :
    entity.Shows false row ↔ row.cell mark.physical = .null := by
  simp [Entity.Shows, Entity.isDeleted, marks, Cell.isNull]

end

/-! ## Marked rows stay -/

/-- Whether a table holds a row with the key of another one, marked at the same time. -/
def Database.Keeps (db : Database) (entity : Entity) (mark : Column) (row : Row) : Prop :=
  ∃ kept ∈ db.rows entity.table, entity.keyOf kept = entity.keyOf row ∧
    kept.cell mark.physical = row.cell mark.physical

section
variable {defaults : Defaults} {registry : Registry} {db : Database} {entity : Entity}
    {mark : Column} {row : Row}

/-- What a call finds has another key than a marked row. -/
theorem not_sameKey_of_marked (marks : entity.deletionColumn? = some mark)
    (distinct : db.KeysDistinct entity) (stored : row ∈ db.rows entity.table)
    (marked : row.cell mark.physical ≠ .null) {id : Value} {relations : List String} {found : Row}
    (hfound : findRow db registry entity id relations false = .ok found) :
    sameKey entity found row = false := by
  obtain ⟨hf, hidden⟩ := mem_of_findRow hfound
  by_contra same
  obtain rfl := unique_of_pairwise distinct hf stored (Bool.of_not_eq_false same)
  exact marked ((shows_iff_null marks).1 (.inr (hidden rfl)))

/-- A call keeps a marked row and its mark. -/
theorem perform_keeps_marked (wellFormed : registry.WellFormed) (known : entity ∈ registry.entities)
    (marks : entity.deletionColumn? = some mark) (distinct : db.KeysDistinct entity)
    (stored : row ∈ db.rows entity.table) (marked : row.cell mark.physical ≠ .null) (call : Call) :
    (call.perform defaults registry db).2.Keeps entity mark row := by
  rcases Call.perform_cases defaults registry db call with
    same | ⟨owner, id, found, hfind, hfound, after⟩ |
      ⟨owner, column, id, found, hfind, -, hfound, after⟩
  · exact ⟨row, by rw [same]; exact stored, rfl, rfl⟩
  · have howner := List.mem_of_find?_eq_some hfind
    obtain ⟨f, rows, touched⟩ := removeRow_rows wellFormed howner known call.now found db
    have key : entity.keyOf (f row) = entity.keyOf row :=
      List.map_congr_left fun column hc => (touched row).kept fun written =>
        wellFormed.keys entity known column hc (List.mem_append_right _ written)
    have time : (f row).cell mark.physical = row.cell mark.physical :=
      (touched row).kept (wellFormed.marks entity known _ (by simp [Entity.markColumn?, marks]))
    refine ⟨f row, ?_, key, time⟩
    rw [after, rows]
    refine List.mem_filter.2 ⟨List.mem_map_of_mem stored, ?_⟩
    by_cases own : entity.table = owner.table
    · -- a row of the same table is removed only if it has the key of what was found
      obtain rfl := wellFormed.eq_of_table known howner own
      have apart := not_sameKey_of_marked marks distinct stored marked hfound
      have apart' : sameKey entity found (f row) = false := by
        rw [sameKey, key]
        exact apart
      simp [apart']
    · simp [own]
  · have howner := List.mem_of_find?_eq_some hfind
    refine ⟨row, ?_, rfl, rfl⟩
    rw [after, markRow_rows]
    by_cases own : entity.table = owner.table
    · obtain rfl := wellFormed.eq_of_table known howner own
      have apart := not_sameKey_of_marked marks distinct stored marked hfound
      rw [if_pos rfl]
      exact List.mem_map.2 ⟨row, stored, by simp [apart]⟩
    · rw [if_neg own]
      exact stored

/-- So does every run of calls. -/
theorem performAll_keeps_marked (wellFormed : registry.WellFormed)
    (known : entity ∈ registry.entities) (marks : entity.deletionColumn? = some mark)
    (intact : db.Intact entity) (stored : row ∈ db.rows entity.table)
    (marked : row.cell mark.physical ≠ .null) (calls : List Call) :
    (Call.performAll defaults registry calls db).Keeps entity mark row := by
  induction calls generalizing db row with
  | nil => exact ⟨row, stored, rfl, rfl⟩
  | cons call calls ih =>
    have step : (call.perform defaults registry db).2.Keeps entity mark row :=
      perform_keeps_marked wellFormed known marks intact.keys stored marked call
    obtain ⟨kept, hk, key, time⟩ := step
    obtain ⟨last, hl, key', time'⟩ :=
      ih (Call.perform_intact wellFormed known intact call) hk (by rw [time]; exact marked)
    exact ⟨last, hl, key'.trans key, time'.trans time⟩

end

/-! ## Soft deletion -/

/-- Whether a row has the key that an identifier stands for and is not marked as deleted. -/
structure Database.HasLive (db : Database) (entity : Entity) (key mark : Column) (id : Value)
    (row : Row) : Prop where
  stored : row ∈ db.rows entity.table
  unmarked : row.cell mark.physical = .null
  named : ∃ cell, key.Takes id cell ∧ (row.cell key.physical).same cell = true

/-- An identifier finds the one row with its key that is not marked, or nothing. -/
theorem findRow_live {db : Database} {entity : Entity} {key mark : Column} (registry : Registry)
    (intact : db.Intact entity) (single : entity.keyColumns = [key])
    (marks : entity.deletionColumn? = some mark) (id : Value) :
    (∃ row, (∀ other, db.HasLive entity key mark id other ↔ other = row) ∧
        findRow db registry entity id [] false = .ok row) ∨
      (∀ row, ¬ db.HasLive entity key mark id row) ∧
        ∃ failure, findRow db registry entity id [] false = .error failure ∧
          (key.Fits id → ∃ refusal, failure = .refusal refusal) := by
  by_cases takes : ∃ cell, key.Takes id cell
  · obtain ⟨cell, takes⟩ := takes
    -- an identifier stands for one cell
    have only : ∀ other, key.Takes id other → other = cell := by
      rintro other ⟨value', coerced', -, stored'⟩
      obtain ⟨value, coerced, -, stored⟩ := takes
      cases coerced.symm.trans coerced'
      cases stored.symm.trans stored'
      rfl
    have found_or := findRow_takes registry false intact single takes
    rcases found_or with ⟨row, stored, same, shown, found⟩ | ⟨hidden, refused⟩
    · refine .inl ⟨row, fun other => ⟨?_, ?_⟩, found⟩
      · rintro ⟨ho, -, cell', takes', same'⟩
        obtain rfl := only cell' takes'
        exact eq_of_same intact.keys single ho stored same' same
      · rintro rfl
        exact ⟨stored, (shows_iff_null marks).1 shown, cell, takes, same⟩
    · refine .inr ⟨?_, _, refused, fun _ => ⟨_, rfl⟩⟩
      rintro row ⟨stored, unmarked, cell', takes', same'⟩
      obtain rfl := only cell' takes'
      exact hidden row stored same' ((shows_iff_null marks).2 unmarked)
  · have stray : ∀ cell, ¬ key.Takes id cell := fun cell h => takes ⟨cell, h⟩
    have failed_or : ∃ failure, findRow db registry entity id [] false = .error failure ∧ _ :=
      findRow_stray registry false single stray
    obtain ⟨failure, failed, refused⟩ := failed_or
    refine .inr ⟨?_, failure, failed, fun fits => ⟨_, refused fits⟩⟩
    rintro row ⟨-, -, cell, takes', -⟩
    exact stray cell takes'

/-- Where no row that is not marked has the key, nothing is marked and nothing changes. -/
theorem softDelete_not_live {registry : Registry} {name : String} {entity : Entity}
    {key mark : Column} {db : Database} (known : registry.find? name = some entity)
    (single : entity.keyColumns = [key]) (marks : entity.deletionColumn? = some mark)
    (intact : db.Intact entity) (defaults : Defaults) {id : Value} (now : Timestamp)
    (none_live : ∀ row, ¬ db.HasLive entity key mark id row) :
    ∃ failure,
      (Call.mk name (.softDelete id) now).perform defaults registry db = (.error failure, db) ∧
      (key.Fits id → ∃ refusal, failure = .refusal refusal) := by
  have found_or := findRow_live registry intact single marks id
  rw [Call.perform_softDelete, softDeleteRecord_eq known marks]
  rcases found_or with ⟨found, live_iff, -⟩ | ⟨-, failure, failed, refused⟩
  · exact absurd ((live_iff found).2 rfl) (none_live found)
  · exact ⟨failure, by rw [failed]; rfl, refused⟩

/-- Marking a record as deleted succeeds exactly if there is a row with its key that is not marked.
It then writes the current time to that row and nothing else; in all other cases it is refused, or
fails for an identifier of which no cell holds the value, and leaves everything as it is. Over every
run of calls a marked row stays, with the time of its deletion. -/
theorem softDelete_stamps {registry : Registry} {name : String} {entity : Entity}
    {key mark : Column} {start : Database} (wellFormed : registry.WellFormed)
    (known : registry.find? name = some entity) (single : entity.keyColumns = [key])
    (marks : entity.MarksWith mark) (intact : start.Intact entity) (defaults : Defaults)
    (calls : List Call) (id : Value) (now : Timestamp) :
    let db := Call.performAll defaults registry calls start
    let result := (Call.mk name (.softDelete id) now).perform defaults registry db
    (∀ row, db.HasLive entity key mark id row →
      (∃ message, result.1 = .ok (.done message)) ∧ entity.Stamps mark now row db result.2) ∧
    ((∀ row, ¬ db.HasLive entity key mark id row) →
      ∃ failure, result = (.error failure, db) ∧
        (key.Fits id → ∃ refusal, failure = .refusal refusal)) ∧
    ∀ row ∈ db.rows entity.table, row.cell mark.physical ≠ .null → ∀ later,
      (Call.performAll defaults registry later db).Keeps entity mark row := by
  intro db result
  have among := List.mem_of_find?_eq_some known
  have marks' : entity.deletionColumn? = some mark := deletionColumn?_eq_some_iff.2 marks
  have intact_db : db.Intact entity := Call.performAll_intact wellFormed among intact calls
  have performed : result = _ := Call.perform_softDelete defaults registry db name id now
  rw [softDeleteRecord_eq known marks'] at performed
  have found_or := findRow_live registry intact_db single marks' id
  refine ⟨fun row live => ?_,
    softDelete_not_live known single marks' intact_db defaults now,
    fun row stored marked later =>
      performAll_keeps_marked wellFormed among marks' intact_db stored marked later⟩
  rcases found_or with ⟨found, live_iff, hf⟩ | ⟨none_live, -⟩
  · obtain rfl := (live_iff row).1 live
    rw [hf] at performed
    rw [performed]
    exact ⟨⟨_, rfl⟩, markRow_stamps intact_db.keys mark now live.stored⟩
  · exact absurd live (none_live row)

/-- In the application whatever is not marked is refused, after every run of calls. -/
theorem Retail.softDelete_refused {name : String} {entity : Entity} {key mark : Column}
    {start : Database} (known : Retail.registry.find? name = some entity)
    (single : entity.keyColumns = [key]) (marks : entity.MarksWith mark)
    (intact : start.Intact entity) (defaults : Defaults) (calls : List Call) (id : Value)
    (now : Timestamp) :
    let db := Call.performAll defaults Retail.registry calls start
    (∀ row, ¬ db.HasLive entity key mark id row) → ∃ refusal,
      (Call.mk name (.softDelete id) now).perform defaults Retail.registry db =
        (.error (.refusal refusal), db) := by
  intro db none_live
  have among := List.mem_of_find?_eq_some known
  have intact_db : db.Intact entity :=
    Call.performAll_intact Retail.registry_wellFormed among intact calls
  obtain ⟨failure, failed, refused⟩ := softDelete_not_live known single
    (deletionColumn?_eq_some_iff.2 marks) intact_db defaults now none_live
  obtain ⟨refusal, rfl⟩ := refused (Retail.keys_fit entity among key (by simp [single]) id)
  exact ⟨refusal, failed⟩

theorem softDelete_stamps_shelves :
    let now := .startOf ⟨2024, 3, 1, by decide⟩
    let id : Value := .text "00000000-0000-0000-0000-000000000003"
    let key : Column := { Column.plain "id" .uuid with initial := .generated }
    let mark : Column := .plain "deleted_at" (.datetime true)
    let db := Call.performAll {} Retail.registry Retail.shelfCalls Retail.shelves
    let result := (Call.mk "category" (.softDelete id) now).perform {} Retail.registry db
    (∀ row, db.HasLive Retail.category key mark id row →
      (∃ message, result.1 = .ok (.done message)) ∧
        Retail.category.Stamps mark now row db result.2) ∧
    ((∀ row, ¬ db.HasLive Retail.category key mark id row) →
      ∃ failure, result = (.error failure, db) ∧
        (key.Fits id → ∃ refusal, failure = .refusal refusal)) ∧
    ∀ row ∈ db.rows "categories", row.cell "deleted_at" ≠ .null → ∀ later,
      (Call.performAll {} Retail.registry later db).Keeps Retail.category mark row :=
  softDelete_stamps Retail.registry_wellFormed rfl rfl (.inl rfl) Retail.shelves_intact {}
    Retail.shelfCalls _ _

end RecordListing
