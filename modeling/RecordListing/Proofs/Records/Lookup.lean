import RecordListing.Proofs.Records.Calls
import RecordListing.Proofs.Store.CoercedValues

/-!
# Finding records

In a table that is intact, a row of an entity with a key of one column is alone with its key
(`eq_of_same`). So looking for a key comes to the row that has it, if that one may be seen, and is
refused otherwise (`findRow_takes`). An identifier that is no key fails (`findRow_stray`), and with
a refusal wherever the values that the column reads have cells (`Column.fits_of_kind`).
-/

set_option autoImplicit false

namespace RecordListing

open Outcome

/-! ## Cells that are the same -/

theorem Cell.same_iff {a b : Cell} :
    a.same b = true ↔ a ≠ .null ∧ b ≠ .null ∧ Cell.compare a b = .eq := by
  by_cases ha : a = .null
  · simp [same, test, isNull, ha]
  · by_cases hb : b = .null
    · simp [same, test, isNull, hb]
    · cases h : compare a b <;> simp [same, test, isNull, ha, hb, h, Truth.ofBool]

/-- Two cells that are the same as a third are the same. -/
theorem Cell.compare_of_same {a b c : Cell} (ha : a.same c = true) (hb : b.same c = true) :
    Cell.compare a b = .eq := by
  obtain ⟨-, -, ac⟩ := Cell.same_iff.1 ha
  obtain ⟨-, -, bc⟩ := Cell.same_iff.1 hb
  have cb : Cell.compare c b = .eq := Std.OrientedCmp.eq_comm.1 bc
  exact Std.TransCmp.eq_trans ac cb

/-! ## Keys -/

/-- Whether an identifier is read as a value of a column, and stored as this cell. -/
def Column.Takes (column : Column) (id : Value) (cell : Cell) : Prop :=
  ∃ key, column.type.coerce? id = some key ∧ column.type.check key = .ok () ∧
    column.type.cell? key = some cell

/-- Whether a column has a cell for each value that it reads from the identifier. -/
def Column.Fits (column : Column) (id : Value) : Prop :=
  ∀ key, column.type.coerce? id = some key → column.type.check key = .ok ()

/-- A value that can be given to the database has a cell. -/
theorem ColumnType.exists_cell {type : ColumnType} {value : Value} (h : type.check value = .ok ()) :
    ∃ cell, type.cell? value = some cell := by
  simp only [check, rawCell, cell?] at h ⊢
  cases fitting : type.fittingCell? value with
  | some cell => exact ⟨_, rfl⟩
  | none =>
    rw [fitting] at h
    cases hopen : type.isOpen <;> simp [hopen, crashWith] at h

theorem ColumnType.check_eq_ok {type : ColumnType} {value : Value} {cell : Cell}
    (fitting : type.fittingCell? value = some cell)
    (inRange : ∀ n, cell = .int n → Cell.fitsInt n = true) : type.check value = .ok () := by
  rw [check, rawCell, fitting]
  cases cell with
  | int n => simp only [inRange n rfl, if_true]
  | _ => rfl

/-- A value that is read has a cell, unless it is a whole number, JSON or of no kind of its own. -/
theorem Column.fits_of_kind {column : Column} (integer : column.kind ≠ .integer)
    (json : column.kind ≠ .json) (other : column.kind ≠ .other) (id : Value) : column.Fits id := by
  intro key read
  unfold kind at integer json other
  generalize column.type = type at *
  cases type with
  | integer => exact absurd rfl integer
  | json => exact absurd rfl json
  | binary => exact absurd rfl other
  | text =>
    cases read
    exact ColumnType.check_eq_ok rfl fun n h => nomatch h
  | uuid =>
    obtain ⟨uuid, -, rfl⟩ := Option.map_eq_some_iff.1 read
    exact ColumnType.check_eq_ok rfl fun n h => nomatch h
  | date =>
    obtain ⟨d, -, rfl⟩ := Option.map_eq_some_iff.1 read
    exact ColumnType.check_eq_ok rfl fun n h => nomatch h
  | datetime zoned =>
    obtain ⟨t, -, rfl⟩ := Option.map_eq_some_iff.1 read
    exact ColumnType.check_eq_ok rfl fun n h => nomatch h
  | boolean =>
    obtain ⟨b, -, rfl⟩ := Option.map_eq_some_iff.1 read
    refine ColumnType.check_eq_ok rfl fun n h => ?_
    cases h
    cases b <;> decide
  | numeric places exact =>
    obtain ⟨x, -, fitting⟩ := ColumnType.fittingCell?_number read
    exact ColumnType.check_eq_ok fitting fun n h => nomatch h
  | choice choices =>
    obtain ⟨text, fitting⟩ := Choices.fittingCell?_accept read
    exact ColumnType.check_eq_ok fitting fun n h => nomatch h

/-- A whole number has a cell if the database can hold it. -/
theorem Column.fits_of_integer {column : Column} (integer : column.type = .integer) {id : Value}
    (inRange : ∀ n, id.toInt? = some n → Cell.fitsInt n = true) : column.Fits id := by
  intro key read
  rw [integer] at read ⊢
  obtain ⟨n, hn, rfl⟩ := Option.map_eq_some_iff.1 read
  refine ColumnType.check_eq_ok rfl fun m h => ?_
  cases h
  exact inRange n hn

/-- In the application every key that can be read has a cell. -/
theorem Retail.keys_fit : ∀ entity ∈ registry.entities, ∀ column ∈ entity.keyColumns, ∀ id,
    column.Fits id := by
  have kinds : ∀ entity ∈ registry.entities, ∀ column ∈ entity.keyColumns, column.kind = .uuid := by
    decide +kernel
  intro entity he column hc id
  have kind := kinds entity he column hc
  exact Column.fits_of_kind (by simp [kind]) (by simp [kind]) (by simp [kind]) id

section
variable {db : Database} {entity : Entity} {key : Column}

theorem eq_of_same (distinct : db.KeysDistinct entity) (single : entity.keyColumns = [key])
    {a b : Row} (ha : a ∈ db.rows entity.table) (hb : b ∈ db.rows entity.table) {cell : Cell}
    (hac : (a.cell key.physical).same cell = true) (hbc : (b.cell key.physical).same cell = true) :
    a = b := by
  refine unique_of_pairwise distinct ha hb ?_
  simp [equalKeys, Entity.keyOf, single, compareKeys, Cell.compare_of_same hac hbc]

end

/-! ## What is found -/

/-- Whether a row may be seen: one that is deleted only by those who ask for such rows. -/
def Entity.Shows (entity : Entity) (withDeleted : Bool) (row : Row) : Prop :=
  withDeleted = true ∨ entity.isDeleted row = false

theorem Entity.shows_iff {entity : Entity} {withDeleted : Bool} {row : Row} :
    (withDeleted || !entity.isDeleted row) = true ↔ entity.Shows withDeleted row := by
  simp [Shows]

section
variable {db : Database} {registry : Registry} {entity : Entity} {key : Column} {id : Value}
    {withDeleted : Bool}

theorem mem_rowsAt_iff {value : Value} {cell : Cell} (stored : key.type.cell? value = some cell)
    {row : Row} :
    row ∈ rowsAt db entity key value withDeleted ↔
      row ∈ db.rows entity.table ∧ (row.cell key.physical).same cell = true ∧
        entity.Shows withDeleted row := by
  simp only [rowsAt, Database.rowsWith, stored, Option.getD_some, List.mem_filter,
    Entity.shows_iff, and_assoc]

/-- Among rows with distinct keys, a row that is found is the only one. -/
theorem rowsAt_eq_singleton (distinct : db.KeysDistinct entity)
    (single : entity.keyColumns = [key]) {value : Value} {cell : Cell}
    (stored : key.type.cell? value = some cell) {row : Row}
    (found : row ∈ rowsAt db entity key value withDeleted) :
    rowsAt db entity key value withDeleted = [row] := by
  have nodup : (rowsAt db entity key value withDeleted).Nodup :=
    (distinct.nodup.filter _).filter _
  refine List.perm_singleton.1 ((List.perm_ext_iff_of_nodup nodup (List.nodup_singleton row)).2
    fun other => ⟨fun ho => ?_, fun ho => List.mem_singleton.1 ho ▸ found⟩)
  obtain ⟨hr, hs, -⟩ := (mem_rowsAt_iff stored).1 found
  obtain ⟨hr', hs', -⟩ := (mem_rowsAt_iff stored).1 ho
  exact List.mem_singleton.2 (eq_of_same distinct single hr' hr hs' hs)

theorem checkAccess_eq (single : entity.keyColumns = [key]) :
    checkAccess registry entity id [] =
      match key.coerce key.property id with
      | .error reason => refuse reason
      | .ok value => .ok (key, value) := by
  have planned : JoinPlan.build registry entity ([].filter fun path => !path.isEmpty) [] =
      .ok ⟨registry, entity, []⟩ := rfl
  simp only [checkAccess, planned, single, List.head?_cons]
  rfl

variable (registry withDeleted)

/-- The row that has a key and may be seen is found, if it can be read. -/
theorem findRow_of_mem (distinct : db.KeysDistinct entity) (single : entity.keyColumns = [key])
    {value : Value} {cell : Cell} (coerced : key.type.coerce? id = some value)
    (fits : key.type.check value = .ok ()) (stored : key.type.cell? value = some cell) {row : Row}
    (found : row ∈ rowsAt db entity key value withDeleted) :
    findRow db registry entity id [] withDeleted = (row.check entity).map fun _ => row := by
  have access : checkAccess registry entity id [] = .ok (key, value) := by
    simp only [checkAccess_eq single, Column.coerce, coerced]
  have alone := rowsAt_eq_singleton distinct single stored found
  have checked : List.forM [row] (Row.check entity) = row.check entity := by
    change (row.check entity >>= fun _ => .ok ()) = _
    cases row.check entity <;> rfl
  simp only [findRow, access, fits, ok_bind, alone, checked]
  cases row.check entity <;> rfl

/-- A key that no row has that may be seen is refused. -/
theorem findRow_of_nil (single : entity.keyColumns = [key]) {value : Value}
    (coerced : key.type.coerce? id = some value) (fits : key.type.check value = .ok ())
    (nothing : rowsAt db entity key value withDeleted = []) :
    findRow db registry entity id [] withDeleted = refuse (.recordNotFound entity.name id) := by
  have access : checkAccess registry entity id [] = .ok (key, value) := by
    simp only [checkAccess_eq single, Column.coerce, coerced]
  simp only [findRow, access, fits, ok_bind, nothing]
  rfl

/-- Looking for a key comes to the row that has it and may be seen, or is refused. -/
theorem findRow_takes (intact : db.Intact entity) (single : entity.keyColumns = [key]) {cell : Cell}
    (takes : key.Takes id cell) :
    (∃ row ∈ db.rows entity.table, (row.cell key.physical).same cell = true ∧
        entity.Shows withDeleted row ∧
        findRow db registry entity id [] withDeleted = .ok row) ∨
      (∀ row ∈ db.rows entity.table, (row.cell key.physical).same cell = true →
        ¬ entity.Shows withDeleted row) ∧
        findRow db registry entity id [] withDeleted = refuse (.recordNotFound entity.name id) := by
  obtain ⟨value, coerced, fits, stored⟩ := takes
  cases found : rowsAt db entity key value withDeleted with
  | nil =>
    refine .inr ⟨fun row hr hs shown => ?_,
      findRow_of_nil registry withDeleted single coerced fits found⟩
    have there := (mem_rowsAt_iff stored).2 ⟨hr, hs, shown⟩
    rw [found] at there
    cases there
  | cons row rest =>
    have first : row ∈ rowsAt db entity key value withDeleted := by simp [found]
    obtain ⟨hr, hs, shown⟩ := (mem_rowsAt_iff stored).1 first
    refine .inl ⟨row, hr, hs, shown, ?_⟩
    rw [findRow_of_mem registry withDeleted intact.keys single coerced fits stored first,
      intact.readable row hr, map_ok]

/-- An identifier that is no key of the entity fails; it is refused as a value of the column, unless
the column reads a value from it that no cell holds. -/
theorem findRow_stray (single : entity.keyColumns = [key]) (stray : ∀ cell, ¬ key.Takes id cell) :
    ∃ failure, findRow db registry entity id [] withDeleted = .error failure ∧
      (key.Fits id → failure = .refusal (.invalidFilterValue key.property key.kind)) := by
  cases coerced : key.type.coerce? id with
  | none =>
    have access : checkAccess registry entity id [] =
        refuse (.invalidFilterValue key.property key.kind) := by
      simp only [checkAccess_eq single, Column.coerce, coerced]
    exact ⟨_, by rw [findRow, access]; rfl, fun _ => rfl⟩
  | some value =>
    have access : checkAccess registry entity id [] = .ok (key, value) := by
      simp only [checkAccess_eq single, Column.coerce, coerced]
    cases fits : key.type.check value with
    | ok _ =>
      obtain ⟨cell, stored⟩ := ColumnType.exists_cell fits
      exact absurd ⟨value, coerced, fits, stored⟩ (stray cell)
    | error failure =>
      refine ⟨failure, by simp only [findRow, access, fits, ok_bind, error_bind], fun all => ?_⟩
      have held := all value coerced
      rw [fits] at held
      cases held

/-! ## Records of a registered entity -/

variable {registry} {name : String}

theorem findRecord_eq (known : registry.find? name = some entity) (id : Value) :
    findRecord db registry name id [] withDeleted =
      (findRow db registry entity id [] withDeleted).map fun row => (entity, row) := by
  have get : registry.get name = .ok entity := Registry.get_eq_ok_iff.2 known
  simp only [findRecord, get, ok_bind]
  cases findRow db registry entity id [] withDeleted <;> rfl

/-- A record is found if it has the key and may be seen. -/
theorem findRecord_eq_ok_iff (known : registry.find? name = some entity)
    (intact : db.Intact entity) (single : entity.keyColumns = [key]) {cell : Cell}
    (takes : key.Takes id cell) {row : Row} :
    findRecord db registry name id [] withDeleted = .ok (entity, row) ↔
      (row ∈ db.rows entity.table ∧ entity.Shows withDeleted row) ∧
        (row.cell key.physical).same cell = true := by
  have found_or := findRow_takes registry withDeleted intact single takes
  rw [findRecord_eq withDeleted known]
  rcases found_or with ⟨other, stored, same, shown, found⟩ | ⟨hidden, refused⟩
  · rw [found, map_ok, Except.ok.injEq, Prod.mk.injEq]
    constructor
    · rintro ⟨-, rfl⟩
      exact ⟨⟨stored, shown⟩, same⟩
    · -- no two rows have one key
      rintro ⟨⟨stored', -⟩, same'⟩
      exact ⟨rfl, eq_of_same intact.keys single stored stored' same same'⟩
  · rw [refused]
    constructor
    · intro h
      cases h
    · rintro ⟨⟨stored, shown⟩, same⟩
      exact absurd shown (hidden row stored same)

theorem findRecord_refused (known : registry.find? name = some entity)
    (intact : db.Intact entity) (single : entity.keyColumns = [key]) {cell : Cell}
    (takes : key.Takes id cell)
    (absent : ∀ row ∈ db.rows entity.table, entity.Shows withDeleted row →
      (row.cell key.physical).same cell = false) :
    findRecord db registry name id [] withDeleted = refuse (.recordNotFound name id) := by
  have found_or := findRow_takes registry withDeleted intact single takes
  rcases found_or with ⟨row, stored, same, shown, -⟩ | ⟨-, refused⟩
  · rw [absent row stored shown] at same
    cases same
  · have named : entity.name = name := by simpa using List.find?_some known
    rw [findRecord_eq withDeleted known, refused, named]
    rfl

theorem findRecord_stray (known : registry.find? name = some entity)
    (single : entity.keyColumns = [key]) (stray : ∀ cell, ¬ key.Takes id cell) :
    ∃ failure, findRecord db registry name id [] withDeleted = .error failure ∧
      (key.Fits id → failure = .refusal (.invalidFilterValue key.property key.kind)) := by
  have failed_or : ∃ failure, findRow db registry entity id [] withDeleted = .error failure ∧ _ :=
    findRow_stray registry withDeleted single stray
  obtain ⟨failure, failed, refused⟩ := failed_or
  exact ⟨failure, by rw [findRecord_eq withDeleted known, failed]; rfl, refused⟩

/-- In the application an identifier that is no key is refused as a value of the key's column. -/
theorem Retail.findRecord_no_key (known : Retail.registry.find? name = some entity)
    (single : entity.keyColumns = [key]) (stray : ∀ cell, ¬ key.Takes id cell) :
    findRecord db Retail.registry name id [] withDeleted =
      refuse (.invalidFilterValue key.property key.kind) := by
  have fits : key.Fits id :=
    Retail.keys_fit entity (List.mem_of_find?_eq_some known) key (by simp [single]) id
  have failed_or : ∃ failure,
      findRecord db Retail.registry name id [] withDeleted = .error failure ∧ _ :=
    findRecord_stray withDeleted known single stray
  obtain ⟨failure, failed, refused⟩ := failed_or
  rw [failed, refused fits]
  rfl

end

end RecordListing
