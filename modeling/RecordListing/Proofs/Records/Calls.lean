import RecordListing.Records.Session
import RecordListing.Proofs.Records.Changes

/-!
# Calls in sessions

A session keeps what work does if it comes to a result and nothing if it fails
(`inSession_andThen`). So a call leaves the database as it is, removes a visible row or marks one
(`Call.perform_cases`). Each of these keeps the keys of an entity distinct and its rows readable,
over every run of calls (`Call.performAll_intact`).
-/

set_option autoImplicit false

namespace RecordListing

open Outcome

/-! ## Sessions -/

/-- What work did in a session is kept if what it comes to is a result, and dropped otherwise. -/
theorem inSession_andThen {ε ε' α β : Type} (work : Work ε α) (f : Except ε α → Except ε' β)
    (db : Database) :
    inSession (work.andThen f) db =
      match f (work db).1 with
      | .ok result => (.ok result, (work db).2)
      | .error failure => (.error failure, db) := by
  cases h : f (work db).1 <;>
    simp [inSession, Work.andThen, Session.start, Session.commit, Session.rollback, h]

/-- Work that changes nothing keeps the database, whatever it comes to. -/
theorem inSession_reading {ε α : Type} (read : Database → Except ε α) (db : Database) :
    inSession (fun db => (read db, db)) db = (read db, db) := by
  cases h : read db <;> simp [inSession, Session.start, Session.commit, Session.rollback, h]

/-! ## Rows that are found -/

section
variable {db : Database} {registry : Registry} {entity : Entity} {id : Value}
    {relations : List String} {withDeleted : Bool} {row : Row}

theorem findRow_eq_ok (h : findRow db registry entity id relations withDeleted = .ok row) :
    ∃ column key, checkAccess registry entity id relations = .ok (column, key) ∧
      rowsAt db entity column key withDeleted = [row] := by
  simp only [findRow, bind_eq_ok_iff] at h
  obtain ⟨⟨column, key⟩, access, -, -, -, -, h⟩ := h
  refine ⟨column, key, access, ?_⟩
  split at h
  · cases h
  · rename_i single
    cases h
    exact single
  · cases h

theorem mem_of_findRow (h : findRow db registry entity id relations withDeleted = .ok row) :
    row ∈ db.rows entity.table ∧ (withDeleted = false → entity.isDeleted row = false) := by
  obtain ⟨column, key, -, single⟩ := findRow_eq_ok h
  have found : row ∈ rowsAt db entity column key withDeleted := by simp [single]
  obtain ⟨stored, visible⟩ := List.mem_filter.1 found
  exact ⟨(List.mem_filter.1 stored).1, by rintro rfl; simpa using visible⟩

end

section
variable {db : Database} {registry : Registry} {now : Timestamp} {name : String} {id : Value}
    {change : Change}

theorem deleteRecord_eq_ok (h : deleteRecord db registry now name id = .ok change) :
    ∃ entity row, registry.find? name = some entity ∧
      findRow db registry entity id [] false = .ok row ∧
      change.database = removeRow registry now entity row db := by
  simp only [deleteRecord, findRecord, bind_eq_ok_iff, pure_eq, Except.ok.injEq] at h
  obtain ⟨_, ⟨entity, known, row, found, rfl⟩, -, -, rfl⟩ := h
  exact ⟨entity, row, Registry.get_eq_ok_iff.1 known, found, rfl⟩

theorem softDeleteRecord_eq_ok (h : softDeleteRecord db registry now name id = .ok change) :
    ∃ entity column row, registry.find? name = some entity ∧
      entity.deletionColumn? = some column ∧
      findRow db registry entity id [] false = .ok row ∧
      change.database = markRow now entity column row db := by
  simp only [softDeleteRecord, bind_eq_ok_iff] at h
  obtain ⟨entity, known, h⟩ := h
  split at h
  · cases h
  · rename_i column marks
    simp only [bind_eq_ok_iff, pure_eq, Except.ok.injEq] at h
    obtain ⟨row, found, rfl⟩ := h
    exact ⟨entity, column, row, Registry.get_eq_ok_iff.1 known, marks, found, rfl⟩

end

/-! ## What a call does -/

namespace Call

variable (defaults : Defaults) (registry : Registry) (db : Database)

/-- A change is kept if it succeeds. -/
theorem inSession_change (change : Database → Outcome Change) :
    inSession ((changeWork change).andThen (·.map Reply.done)) db =
      match change db with
      | .ok change => (.ok (.done change.message), change.database)
      | .error failure => (.error failure, db) := by
  rw [inSession_andThen, changeWork]
  cases change db <;> rfl

theorem perform_delete (name : String) (id : Value) (now : Timestamp) :
    (Call.mk name (.delete id) now).perform defaults registry db =
      match deleteRecord db registry now name id with
      | .ok change => (.ok (.done change.message), change.database)
      | .error failure => (.error failure, db) :=
  inSession_change db fun db => deleteRecord db registry now name id

theorem perform_softDelete (name : String) (id : Value) (now : Timestamp) :
    (Call.mk name (.softDelete id) now).perform defaults registry db =
      match softDeleteRecord db registry now name id with
      | .ok change => (.ok (.done change.message), change.database)
      | .error failure => (.error failure, db) :=
  inSession_change db fun db => softDeleteRecord db registry now name id

/-- A call changes nothing, or removes or marks a row that it finds and that is not deleted. -/
theorem perform_cases (call : Call) :
    (call.perform defaults registry db).2 = db ∨
      (∃ entity id row, registry.find? call.entity = some entity ∧
        findRow db registry entity id [] false = .ok row ∧
        (call.perform defaults registry db).2 = removeRow registry call.now entity row db) ∨
      ∃ entity column id row, registry.find? call.entity = some entity ∧
        entity.deletionColumn? = some column ∧
        findRow db registry entity id [] false = .ok row ∧
        (call.perform defaults registry db).2 = markRow call.now entity column row db := by
  obtain ⟨name, operation, now⟩ := call
  cases operation with
  | list request => exact .inl (congrArg Prod.snd (inSession_reading _ db))
  | find id relations withDeleted => exact .inl (congrArg Prod.snd (inSession_reading _ db))
  | delete id =>
    rw [perform_delete]
    split
    · rename_i change deleted
      obtain ⟨entity, row, known, found, after⟩ := deleteRecord_eq_ok deleted
      exact .inr (.inl ⟨entity, id, row, known, found, after⟩)
    · exact .inl rfl
  | softDelete id =>
    rw [perform_softDelete]
    split
    · rename_i change marked
      obtain ⟨entity, column, row, known, marks, found, after⟩ := softDeleteRecord_eq_ok marked
      exact .inr (.inr ⟨entity, column, id, row, known, marks, found, after⟩)
    · exact .inl rfl

end Call

/-! ## Intact tables -/

/-- Whether the table of an entity is as the database keeps it: no two rows have one key, all rows
can be read, and there are no more than can be counted. -/
structure Database.Intact (db : Database) (entity : Entity) : Prop where
  keys : db.KeysDistinct entity
  readable : ∀ row ∈ db.rows entity.table, row.check entity = .ok ()
  countable : Cell.fitsInt (db.rows entity.table).length = true

theorem ColumnType.fetch_ok_iff (type : ColumnType) (cell : Cell) :
    (type.fetch cell).map (fun _ => ()) = .ok () ↔
      (type.kind = .choice → ∀ s, cell = .text s → s ∈ type.choiceTexts) := by
  cases cell with
  | text s =>
    simp only [ColumnType.fetch, Cell.text.injEq, forall_eq']
    split
    · rename_i unknown
      simp only [Bool.and_eq_true, decide_eq_true_eq, Bool.not_eq_true',
        List.contains_eq_mem, decide_eq_false_iff_not] at unknown
      simp [crashWith, unknown]
    · rename_i known
      simp only [Bool.and_eq_true, decide_eq_true_eq, Bool.not_eq_true',
        List.contains_eq_mem, decide_eq_false_iff_not, not_and, not_not] at known
      simpa using known
  | _ => simp [ColumnType.fetch]

theorem Row.check_eq_ok_iff {entity : Entity} {row : Row} :
    row.check entity = .ok () ↔ ∀ column ∈ entity.columns,
      column.kind = .choice → ∀ s, row.cell column.physical = .text s →
        s ∈ column.type.choiceTexts := by
  simp only [Row.check, forM_eq_ok_iff, ColumnType.fetch_ok_iff, Column.kind]

/-- Whether the choices of a row are all known. -/
def Entity.Reads (entity : Entity) (row : Row) : Prop :=
  ∀ column ∈ entity.columns, column.kind = .choice → ∀ s, row.cell column.physical = .text s →
    s ∈ column.type.choiceTexts

/-- Whether a failure is that of a row with a choice that is not known. -/
def Failure.IsUnknownChoice (failure : Failure) : Prop :=
  ∃ s, failure = .crash ⟨.other "LookupError", Text.quoted s ++ " is none of the choices"⟩

theorem Row.check_ends (entity : Entity) (row : Row) :
    Ends Failure.IsUnknownChoice (fun _ => True) (row.check entity) := by
  refine Ends.forM fun column _ => Ends.map ?_
  unfold ColumnType.fetch
  split
  · split
    · exact ⟨_, rfl⟩
    · trivial
  · trivial

namespace Database.Intact

variable {registry : Registry} {entity : Entity} {db after : Database}

/-- Rows that were touched at most, or dropped, are intact. -/
theorem of_rows (intact : db.Intact entity) (wellFormed : registry.WellFormed)
    (known : entity ∈ registry.entities) {f : Row → Row} {keep : Row → Bool}
    (rows : after.rows entity.table = ((db.rows entity.table).map f).filter keep)
    (touched : ∀ row, Row.Touched (registry.writtenColumns entity) row (f row)) :
    after.Intact entity where
  keys := by
    have same (row : Row) : entity.keyOf (f row) = entity.keyOf row :=
      List.map_congr_left fun column hc =>
        (touched row).kept (wellFormed.keys entity known column hc)
    rw [Database.KeysDistinct, rows]
    refine List.Pairwise.filter _ (List.pairwise_map.2 (intact.keys.imp fun apart => ?_))
    rw [same, same]
    exact apart
  readable := by
    intro row hr
    rw [rows] at hr
    obtain ⟨before, hb, rfl⟩ := List.mem_map.1 (List.mem_filter.1 hr).1
    refine Row.check_eq_ok_iff.2 fun column hc choice s hs => ?_
    -- a column of choices is never written
    rw [(touched before).kept fun written => wellFormed.plain entity known column hc written choice]
      at hs
    exact Row.check_eq_ok_iff.1 (intact.readable before hb) column hc choice s hs
  countable := by
    have fewer : (after.rows entity.table).length ≤ (db.rows entity.table).length := by
      rw [rows]
      exact (List.length_filter_le _ _).trans (List.length_map f).le
    have counted := intact.countable
    simp only [Cell.fitsInt, Bool.and_eq_true, decide_eq_true_eq] at counted ⊢
    omega

end Database.Intact

namespace Call

variable {defaults : Defaults} {registry : Registry} {entity : Entity} {db : Database}

theorem perform_intact (wellFormed : registry.WellFormed) (known : entity ∈ registry.entities)
    (intact : db.Intact entity) (call : Call) :
    (call.perform defaults registry db).2.Intact entity := by
  rcases perform_cases defaults registry db call with
    same | ⟨owner, id, row, hfind, -, after⟩ | ⟨owner, column, id, row, hfind, marks, -, after⟩
  · rw [same]
    exact intact
  · have howner := List.mem_of_find?_eq_some hfind
    obtain ⟨f, rows, touched⟩ := removeRow_rows wellFormed howner known call.now row db
    rw [after]
    exact intact.of_rows wellFormed known rows fun other =>
      (touched other).mono fun name hn => List.mem_append_right _ hn
  · have howner := List.mem_of_find?_eq_some hfind
    obtain ⟨f, rows, touched⟩ := markRow_touched wellFormed howner known marks call.now row db
    have all : (call.perform defaults registry db).2.rows entity.table =
        ((db.rows entity.table).map f).filter fun _ => true := by
      rw [after, rows, List.filter_true]
    exact intact.of_rows wellFormed known all touched

/-- A run of calls keeps a table intact. -/
theorem performAll_intact (wellFormed : registry.WellFormed) (known : entity ∈ registry.entities)
    (intact : db.Intact entity) (calls : List Call) :
    (performAll defaults registry calls db).Intact entity := by
  induction calls generalizing db with
  | nil => exact intact
  | cons call calls ih => exact ih (perform_intact wellFormed known intact call)

end Call

/-! ## An example -/

namespace Retail

/-- Three categories of products, one of which is marked as deleted. -/
def shelves : Database :=
  ⟨[("categories", [
      [("id", .text "00000000000000000000000000000001"), ("name", .text "tea"),
        ("updated_at", .text "2024-01-01 00:00:00.000000")],
      [("id", .text "00000000000000000000000000000002"), ("name", .text "jam"),
        ("deleted_at", .text "2024-01-02 00:00:00.000000")],
      [("id", .text "00000000000000000000000000000003"), ("name", .text "oil")]])]⟩

theorem shelves_intact : shelves.Intact category where
  keys := by decide +kernel
  readable := by
    have all : (shelves.rows category.table).all (fun row => (row.check category).toBool) = true :=
      by decide +kernel
    exact fun row hr => eq_ok_of_toBool (List.all_eq_true.1 all row hr)
  countable := by decide +kernel

/-- Marks the first category, tries to remove the second one and lists brands. -/
def shelfCalls : List Call :=
  let now := .startOf ⟨2024, 2, 1, by decide⟩
  [⟨"category", .softDelete (.text "00000000-0000-0000-0000-000000000001"), now⟩,
    ⟨"category", .delete (.text "00000000-0000-0000-0000-000000000002"), now⟩,
    ⟨"brand", .list {}, now⟩]

end Retail

end RecordListing
