import RecordListing.Records.Listed
import RecordListing.Proofs.Records.Lookup
import RecordListing.Proofs.Store.Meaning

/-!
# All pages of a listing

A request that asks for one page of all records compiles to a listing that joins nothing and hides
deleted rows unless they are asked for (`compileListing_plain`). Its pages are the parts of one
sorted list (`plain_result`). So the pages, read one after the other up to the last, hold every row
that may be seen once (`listAll_eq`).
-/

set_option autoImplicit false

namespace RecordListing

open Outcome

/-! ## One page of all records -/

/-- The request for one page of all records. -/
def Request.plain (withDeleted : Bool) (limit page : Nat) : Request where
  page := .int page
  limit := .int limit
  withDeleted := withDeleted

namespace Request

variable (withDeleted : Bool) (limit page : Nat)

theorem plain_page : (plain withDeleted limit page).page = .int page := rfl

theorem plain_limit : (plain withDeleted limit page).limit = .int limit := rfl

theorem plain_sortBy : (plain withDeleted limit page).sortBy = .null := rfl

theorem plain_sortOrder : (plain withDeleted limit page).sortOrder = .null := rfl

theorem plain_relations : (plain withDeleted limit page).relations = .list [] := rfl

end Request

/-- A listing of all records of an entity. -/
def Listing.plain (registry : Registry) (entity : Entity) (withDeleted : Bool) (sorting : Sorting)
    (window : Window) : Listing where
  plan := ⟨registry, entity, []⟩
  window := window
  conditions := if withDeleted then [] else notDeleted entity
  sorting := sorting

section
variable {defaults : Defaults} {registry : Registry} {name : String} {entity : Entity}

theorem rootSortColumn_default (keyed : entity.keyColumns ≠ []) (default : Option String) :
    ∃ column, rootSortColumn entity "" default = .ok column := by
  obtain ⟨first, rest, hkey⟩ := List.exists_cons_of_ne_nil keyed
  have blank : "".isEmpty = true := rfl
  simp only [rootSortColumn, blank, if_true]
  cases default.bind entity.column? with
  | some column => exact ⟨column, rfl⟩
  | none =>
    rw [hkey]
    exact ⟨first, rfl⟩

theorem compileListing_plain (known : registry.find? name = some entity)
    (keyed : entity.keyColumns ≠ []) (defaults : Defaults) (withDeleted : Bool) {limit : Nat}
    (hl : 1 ≤ limit) :
    ∃ sorting, ∀ page (hp : 1 ≤ page),
      compileListing defaults registry name (.plain withDeleted limit page) =
        .ok (.plain registry entity withDeleted sorting ⟨page, limit, hp⟩) := by
  obtain ⟨column, sorted⟩ := rootSortColumn_default keyed defaults.sortField
  refine ⟨⟨column.property, ⟨[], column⟩, ⟨false⟩⟩, fun page hp => ?_⟩
  have get : registry.get name = .ok entity := Registry.get_eq_ok_iff.2 known
  have window : readWindow (.int page) (.int limit) defaults.pageSize =
      .ok ⟨page, limit, hp⟩ := by
    have page' : (1 : Int) ≤ page := by omega
    have limit' : (1 : Int) ≤ limit := by omega
    simp only [readWindow, readPositive?, positiveOr, page', limit', dite_true, ok_bind]
    rfl
  have terms : requestTerms defaults (.plain withDeleted limit page) = .ok ([], []) := rfl
  have plan : planRequest registry entity (.plain withDeleted limit page) [] [] =
      .ok ⟨registry, entity, []⟩ := rfl
  have conditions : compileConditions ⟨registry, entity, []⟩ (.plain withDeleted limit page) [] [] =
      .ok (if withDeleted then [] else notDeleted entity) := rfl
  have sorting : compileSorting ⟨registry, entity, []⟩ .null .null defaults.sortField =
      .ok ⟨column.property, ⟨[], column⟩, ⟨false⟩⟩ := by
    have order : readSortOrder .null = .ok ⟨false⟩ := rfl
    have field : readSortField .null = .ok "" := rfl
    have hops : entity.relationHops "" = [] := rfl
    simp only [compileSorting, order, field, ok_bind, hops, List.isEmpty_nil, if_true, sorted,
      pure_eq]
  simp only [compileListing, get, ok_bind, Request.plain_page, Request.plain_limit, window, terms,
    plan, conditions, Request.plain_sortBy, Request.plain_sortOrder, sorting]
  rfl

end

namespace Listing

section
variable {registry : Registry} {entity : Entity} {withDeleted : Bool} {sorting : Sorting}
    {window : Window} {db : Database}

/-- Without relations to join there is one way, which meets the conditions if the row may be
seen. -/
theorem mem_plain_matching_iff {row : Row} :
    row ∈ (plain registry entity withDeleted sorting window).matching db ↔
      row ∈ db.rows entity.table ∧ entity.Shows withDeleted row := by
  have met : meetsAll (if withDeleted then [] else notDeleted entity) ⟨row, []⟩ = true ↔
      entity.Shows withDeleted row := by
    cases withDeleted with
    | true => simp [meetsAll, Entity.Shows]
    | false =>
      simp only [Entity.Shows, Entity.isDeleted, notDeleted]
      cases entity.deletionColumn? with
      | none => simp [meetsAll]
      | some column =>
        have cell : (⟨row, []⟩ : JoinedRow).cell ⟨[], column⟩ = row.cell column.physical := rfl
        cases h : (row.cell column.physical).isNull <;>
          simp [meetsAll, Condition.truth, Test.truth, cell, h, Truth.ofBool]
  have ways : (plain registry entity withDeleted sorting window).ways db row =
      [⟨row, []⟩].filter (meetsAll (if withDeleted then [] else notDeleted entity)) := rfl
  rw [matching, List.mem_filter, ways, List.filter_singleton]
  cases hm : meetsAll (if withDeleted then [] else notDeleted entity) ⟨row, []⟩ with
  | true => simp [plain, met.1 hm]
  | false =>
    have hidden : ¬ entity.Shows withDeleted row := fun shown => by simp [met.2 shown] at hm
    simp [hidden]

theorem plain_planned : JoinPlan.Planned registry entity
    (plain registry entity withDeleted sorting window).plan.steps := JoinPlan.Planned.nil

/-- The pages show every row that may be seen, once. -/
theorem plain_sorted (intact : db.Intact entity) {rows : List Row}
    (sorted_eq : (plain registry entity withDeleted sorting window).sorted db = rows) :
    rows.Nodup ∧
      ∀ row, row ∈ rows ↔ row ∈ db.rows entity.table ∧ entity.Shows withDeleted row := by
  have lists : (plain registry entity withDeleted sorting window).Lists db rows :=
    sorted_eq ▸ lists_sorted plain_planned intact.keys
  refine ⟨lists.nodup, fun row => ?_⟩
  rw [lists.mem_iff, ← mem_matching_iff plain_planned]
  exact mem_plain_matching_iff

theorem plain_binds : (plain registry entity withDeleted sorting window).binds = [] := by
  have none_bound :
      (if withDeleted then [] else notDeleted entity).flatMap Condition.binds = [] := by
    cases withDeleted with
    | true => rfl
    | false =>
      simp only [notDeleted]
      cases entity.deletionColumn? <;> rfl
  unfold binds
  split
  · rfl
  · exact none_bound

theorem plain_checkConditions :
    (plain registry entity withDeleted sorting window).checkConditions = .ok () := by
  simp only [checkConditions, plain_binds]
  rfl

/-- A page that starts among the rows there are can be counted. -/
theorem plain_checkWindow {page limit : Nat} (hp : 1 ≤ page) (fits : Cell.fitsInt limit = true)
    {total : Nat} (countable : Cell.fitsInt total = true) (within : (page - 1) * limit ≤ total) :
    (plain registry entity withDeleted sorting ⟨page, limit, hp⟩).checkWindow = .ok () := by
  have start : Cell.fitsInt (((page - 1 : Nat) : Int) * limit) = true := by
    simp only [Cell.fitsInt, Bool.and_eq_true, decide_eq_true_eq] at countable ⊢
    have within' : ((page - 1 : Nat) : Int) * limit ≤ total := by exact_mod_cast within
    have positive : (0 : Int) ≤ ((page - 1 : Nat) : Int) * limit :=
      mul_nonneg (Int.natCast_nonneg _) (Int.natCast_nonneg _)
    omega
  have taken (n : Int) (hn : Cell.fitsInt n = true) :
      ColumnType.integer.check (.int n) = .ok () := by
    simp [ColumnType.check, ColumnType.rawCell, ColumnType.fittingCell?, Value.toCell?, hn]
  have limit_taken := taken limit fits
  have start_taken := taken _ start
  simp only [checkWindow, plain, Window.offset, limit_taken, start_taken, ok_bind]

/-- What a page shows: how many rows there are on all pages, and its part of them. -/
theorem plain_result (intact : db.Intact entity) {limit : Nat} (fits : Cell.fitsInt limit = true)
    {rows : List Row}
    (sorted_eq : (plain registry entity withDeleted sorting window).sorted db = rows) {page : Nat}
    (hp : 1 ≤ page) (within : (page - 1) * limit ≤ rows.length) :
    ((plain registry entity withDeleted sorting ⟨page, limit, hp⟩).run db).result =
      .ok ⟨rows.length, page, limit, (rows.drop ((page - 1) * limit)).take limit⟩ := by
  -- the order of the rows does not depend on the window
  have same : (plain registry entity withDeleted sorting ⟨page, limit, hp⟩).sorted db = rows :=
    sorted_eq
  obtain ⟨nodup, mem_rows⟩ := plain_sorted intact sorted_eq
  have stored : ∀ row ∈ rows, row ∈ db.rows entity.table := fun row hr => ((mem_rows row).1 hr).1
  have total : Cell.fitsInt rows.length = true := by
    have fewer : rows.length ≤ (db.rows entity.table).length :=
      (List.subperm_of_subset nodup stored).length_le
    have counted := intact.countable
    simp only [Cell.fitsInt, Bool.and_eq_true, decide_eq_true_eq] at counted ⊢
    omega
  have counted : (plain registry entity withDeleted sorting ⟨page, limit, hp⟩).checkWindow =
      .ok () := plain_checkWindow hp fits total within
  rw [run_eq plain_planned intact.keys plain_checkConditions counted]
  have part : (plain registry entity withDeleted sorting ⟨page, limit, hp⟩).shown rows =
      (rows.drop ((page - 1) * limit)).take limit := by
    have some_rows : ¬ (limit : Int) < 0 := by omega
    simp only [shown, plain, some_rows, if_false, Int.toNat_natCast]
  have readable : ((rows.drop ((page - 1) * limit)).take limit).forM (Row.check entity) = .ok () :=
    forM_eq_ok_iff.2 fun row hr =>
      intact.readable row (stored row (List.mem_of_mem_drop (List.mem_of_mem_take hr)))
  have root : (plain registry entity withDeleted sorting ⟨page, limit, hp⟩).plan.root = entity :=
    rfl
  simp only [pageRows, same, cut_eq_shown, part, root, readable]
  rfl

end

end Listing

/-! ## All pages -/

/-- How many pages come after the first one. -/
def morePages (total limit : Nat) : Nat := (total - 1) / limit

/-- Reads all pages of the records of an entity; the first one tells how many there are. -/
def listAll (defaults : Defaults) (registry : Registry) (db : Database) (entity : String)
    (withDeleted : Bool) (limit : Nat) : Outcome (List Row) := do
  let read (page : Nat) : Outcome Page :=
    (listRecords defaults registry db entity (.plain withDeleted limit page)).result
  let first ← read 1
  let others ← (List.range (morePages first.total limit)).mapM fun i => read (i + 2)
  return (first :: others).flatMap (·.rows)

/-- The parts of a list, put together. -/
theorem flatMap_parts {α : Type} (items : List α) (size count : Nat) :
    (List.range count).flatMap (fun i => (items.drop (i * size)).take size) =
      items.take (count * size) := by
  induction count with
  | zero => simp
  | succ count ih =>
    have last : items.take ((count + 1) * size) =
        items.take (count * size) ++ (items.drop (count * size)).take size := by
      rw [Nat.succ_mul, List.take_add]
    simp [List.range_succ, ih, last]

section
variable {registry : Registry} {db : Database} {name : String} {entity : Entity}

theorem loadRelations_none (known : registry.find? name = some entity) {rows : List Row}
    (readable : ∀ row ∈ rows, row.check entity = .ok ()) :
    loadRelations db registry name (.list []) rows = .ok () := by
  have get : registry.get name = .ok entity := Registry.get_eq_ok_iff.2 known
  have paths : (Value.list []).paths = .ok [] := rfl
  simp only [loadRelations, get, paths, ok_bind]
  refine forM_eq_ok_iff.2 fun row hr => ?_
  have tree : RelationTree.ofPaths [] = .node [] := rfl
  simp only [recordOf, List.filter_nil, tree, showRecord, showRelations, readable row hr, ok_bind]
  rfl

/-- A page of all records. -/
theorem listRecords_plain (known : registry.find? name = some entity)
    (keyed : entity.keyColumns ≠ []) (intact : db.Intact entity) (defaults : Defaults)
    (withDeleted : Bool) {limit : Nat} (hl : 1 ≤ limit) (fits : Cell.fitsInt limit = true) :
    ∃ rows : List Row, rows.Nodup ∧
      (∀ row, row ∈ rows ↔ row ∈ db.rows entity.table ∧ entity.Shows withDeleted row) ∧
      ∀ page, 1 ≤ page → (page - 1) * limit ≤ rows.length →
        (listRecords defaults registry db name (.plain withDeleted limit page)).result =
          .ok ⟨rows.length, page, limit, (rows.drop ((page - 1) * limit)).take limit⟩ := by
  obtain ⟨sorting, compiled⟩ := compileListing_plain known keyed defaults withDeleted hl
  let first := Listing.plain registry entity withDeleted sorting ⟨1, limit, Nat.le_refl 1⟩
  obtain ⟨rows, sorted_eq⟩ : ∃ rows, first.sorted db = rows := ⟨_, rfl⟩
  obtain ⟨nodup, mem_rows⟩ := Listing.plain_sorted intact sorted_eq
  refine ⟨rows, nodup, mem_rows, fun page hp within => ?_⟩
  have run := Listing.plain_result intact fits sorted_eq hp within
  have readable : ∀ row ∈ (rows.drop ((page - 1) * limit)).take limit, row.check entity = .ok () :=
    fun row hr =>
      intact.readable row ((mem_rows row).1 (List.mem_of_mem_drop (List.mem_of_mem_take hr))).1
  simp only [listRecords, runListing, compiled page hp, run, ok_bind, Request.plain_relations,
    loadRelations_none known readable]
  rfl

/-- The pages, read one after the other up to the last, hold every row that may be seen, once. -/
theorem listAll_eq (known : registry.find? name = some entity)
    (keyed : entity.keyColumns ≠ []) (intact : db.Intact entity) (defaults : Defaults)
    (withDeleted : Bool) {limit : Nat} (hl : 1 ≤ limit) (fits : Cell.fitsInt limit = true) :
    ∃ rows : List Row, listAll defaults registry db name withDeleted limit = .ok rows ∧
      rows.Nodup ∧
      ∀ row, row ∈ rows ↔ row ∈ db.rows entity.table ∧ entity.Shows withDeleted row := by
  obtain ⟨rows, nodup, mem_rows, pages⟩ :=
    listRecords_plain known keyed intact defaults withDeleted hl fits
  refine ⟨rows, ?_, nodup, mem_rows⟩
  have first := pages 1 (Nat.le_refl 1) (by omega)
  have others : (List.range (morePages rows.length limit)).mapM (fun i =>
      (listRecords defaults registry db name (.plain withDeleted limit (i + 2))).result) =
      .ok ((List.range (morePages rows.length limit)).map fun i =>
        ⟨rows.length, i + 2, limit, (rows.drop ((i + 1) * limit)).take limit⟩) := by
    refine mapM_eq_map fun i hi => pages (i + 2) (by omega) ?_
    have before : i + 1 ≤ (rows.length - 1) / limit := List.mem_range.1 hi
    have within : (i + 1) * limit ≤ rows.length - 1 := (Nat.le_div_iff_mul_le hl).1 before
    have start : i + 2 - 1 = i + 1 := by omega
    rw [start]
    omega
  have last : rows.length ≤ (morePages rows.length limit + 1) * limit := by
    have beyond : rows.length - 1 < limit * ((rows.length - 1) / limit + 1) :=
      Nat.lt_mul_div_succ _ hl
    rw [morePages, Nat.mul_comm]
    omega
  have parts := flatMap_parts rows limit (morePages rows.length limit + 1)
  rw [List.take_of_length_le last, List.range_succ_eq_map, List.flatMap_cons] at parts
  simp only [listAll, first, others, ok_bind, pure_eq, List.flatMap_cons, List.flatMap_map]
    at parts ⊢
  simpa using parts

end

end RecordListing
