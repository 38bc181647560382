import Mathlib.Data.List.Sort
import RecordListing.Schema.Sample
import RecordListing.Store.Execution
import RecordListing.Proofs.Query.Coverage
import RecordListing.Proofs.Store.Grouping

/-!
# What a listing means

A row matches if some assignment of related rows meets all conditions (`Listing.Matches`). Matching
rows are ordered by the first cell of the sort column that such assignments reach, then by primary
key (`Listing.Precedes`). Running a listing counts these rows and shows a window of them
(`runListing_eq`), although its statements read every way to join a row.
-/

set_option autoImplicit false

namespace RecordListing

open JoinPlan

namespace Listing

/-! ## Reference meaning -/

/-- Whether an assignment of related rows goes along the joins and meets all conditions. -/
structure Meets (listing : Listing) (db : Database) (row : Row) (a : Assignment) : Prop where
  follows : ∀ step ∈ listing.plan.steps, a.Follows db row step
  met : ∀ condition ∈ listing.conditions,
    condition.truth (a.joined row listing.plan.steps) = .yes

/-- Whether some assignment of related rows to the row meets all conditions. -/
def Matches (listing : Listing) (db : Database) (row : Row) : Prop := ∃ a, listing.Meets db row a

/-- Whether some assignment that meets all conditions has this cell in the sort column. -/
def Reaches (listing : Listing) (db : Database) (row : Row) (cell : Cell) : Prop :=
  ∃ a, listing.Meets db row a ∧
    cell = (a.joined row listing.plan.steps).cell listing.sorting.column

/-- Whether a row is sorted by this cell: the first that it reaches. -/
def SortsBy (listing : Listing) (db : Database) (row : Row) (key : Cell) : Prop :=
  listing.sorting.order.IsFirst (listing.Reaches db row) key

/-- Whether a row stands before another: by what they are sorted by, then by primary key. -/
def Precedes (listing : Listing) (db : Database) (a b : Row) : Prop :=
  ∃ x y, listing.SortsBy db a x ∧ listing.SortsBy db b y ∧
    (listing.sorting.order.compare x y).then
      (compareKeys (listing.plan.root.keyOf a) (listing.plan.root.keyOf b)) = .lt

/-- Whether these are the rows that match, each once and in order. -/
structure Lists (listing : Listing) (db : Database) (rows : List Row) : Prop where
  nodup : rows.Nodup
  mem_iff : ∀ row, row ∈ rows ↔ row ∈ db.rows listing.plan.root.table ∧ listing.Matches db row
  ordered : rows.Pairwise (listing.Precedes db)

section
variable {listing : Listing} {db : Database}

/-- Whatever cells two rows are sorted by, they are in the same order. -/
theorem compareEntries_congr {a b : Row} {x x' y y' : Cell} (hx : listing.SortsBy db a x)
    (hx' : listing.SortsBy db a x') (hy : listing.SortsBy db b y) (hy' : listing.SortsBy db b y') :
    listing.compareEntries (x, a) (y, b) = listing.compareEntries (x', a) (y', b) := by
  simp only [compareEntries]
  rw [Std.TransCmp.congr_left (hx.unique hx'), Std.TransCmp.congr_right (hy.unique hy')]

theorem Precedes.asymm {a b : Row} (hab : listing.Precedes db a b) : ¬ listing.Precedes db b a := by
  rintro ⟨y', x', hy', hx', hba⟩
  obtain ⟨x, y, hx, hy, hab⟩ := hab
  have ab : listing.compareEntries (x, a) (y, b) = .lt := hab
  have ba : listing.compareEntries (y', b) (x', a) = .lt := hba
  have swapped : listing.compareEntries (x', a) (y', b) =
      (listing.compareEntries (y', b) (x', a)).swap := Std.OrientedCmp.eq_swap
  rw [compareEntries_congr hx hx' hy hy', swapped, ba] at ab
  cases ab

/-- There is only one list of the rows that match. -/
theorem Lists.unique {rows others : List Row} (h : listing.Lists db rows)
    (h' : listing.Lists db others) : rows = others := by
  have irrefl : Std.Irrefl (listing.Precedes db) := ⟨fun _ hp => hp.asymm hp⟩
  have antisymm : Std.Antisymm (listing.Precedes db) := ⟨fun _ _ hab hba => absurd hba hab.asymm⟩
  exact h.ordered.eq_of_mem_iff h'.ordered fun row => (h.mem_iff row).trans (h'.mem_iff row).symm

end

/-- The rows after those of the pages before, as many as the limit says; all if it is negative. -/
def shown (listing : Listing) (rows : List Row) : List Row :=
  if listing.window.limit < 0 then rows
  else
    (rows.drop ((listing.window.page - 1) * listing.window.limit.toNat)).take
      listing.window.limit.toNat

theorem cut_eq_shown (listing : Listing) (rows : List Row) :
    listing.window.cut rows = listing.shown rows := by
  obtain ⟨plan, ⟨page, limit, pos⟩, conditions, sorting⟩ := listing
  simp only [Window.cut, Window.offset, shown]
  split
  · have start : (((page - 1 : Nat) : Int) * limit).toNat = 0 :=
      Int.toNat_of_nonpos (Int.mul_nonpos_of_nonneg_of_nonpos (by omega) (by omega))
    rw [start, List.drop_zero]
  · have start : (((page - 1 : Nat) : Int) * limit).toNat = (page - 1) * limit.toNat := by
      rw [← Int.toNat_of_nonneg (by omega : 0 ≤ limit), ← Int.natCast_mul, Int.toNat_natCast,
        Int.toNat_natCast]
    rw [start]

/-! ## The rows of a listing -/

section
variable {listing : Listing} {db : Database} {registry : Registry} {entity : Entity}
    (planned : Planned registry entity listing.plan.steps)
include planned

theorem mem_ways_iff {row : Row} {way : JoinedRow} :
    way ∈ listing.ways db row ↔
      ∃ a, listing.Meets db row a ∧ way = a.joined row listing.plan.steps := by
  simp only [ways, List.mem_filter, mem_joinedRows_iff planned, meetsAll, List.all_eq_true,
    beq_iff_eq]
  constructor
  · rintro ⟨⟨a, follows, rfl⟩, met⟩
    exact ⟨a, ⟨follows, met⟩, rfl⟩
  · rintro ⟨a, ⟨follows, met⟩, rfl⟩
    exact ⟨⟨a, follows, rfl⟩, met⟩

theorem mem_matching_iff {row : Row} :
    row ∈ listing.matching db ↔
      row ∈ db.rows listing.plan.root.table ∧ listing.Matches db row := by
  rw [matching, List.mem_filter, Bool.not_eq_true', List.isEmpty_eq_false_iff_exists_mem]
  simp only [mem_ways_iff planned]
  constructor
  · rintro ⟨hr, way, a, meets, -⟩
    exact ⟨hr, a, meets⟩
  · rintro ⟨hr, a, meets⟩
    exact ⟨hr, _, a, meets, rfl⟩

theorem sortsBy_sortKey (row : Row) : listing.SortsBy db row (listing.sortKey db row) := by
  have reaches_iff (cell : Cell) : listing.Reaches db row cell ↔
      cell ∈ (listing.ways db row).map fun way => way.cell listing.sorting.column := by
    simp only [Reaches, List.mem_map, mem_ways_iff planned]
    constructor
    · rintro ⟨a, meets, rfl⟩
      exact ⟨_, ⟨a, meets, rfl⟩, rfl⟩
    · rintro ⟨_, ⟨a, meets, rfl⟩, rfl⟩
      exact ⟨a, meets, rfl⟩
  rw [SortsBy, show listing.Reaches db row = _ from funext fun cell => propext (reaches_iff cell)]
  exact listing.sorting.extreme_isFirst (listing.ways db row)

/-- The sorted rows are those that match, each once and in order. -/
theorem lists_sorted (distinct : db.KeysDistinct listing.plan.root) :
    listing.Lists db (listing.sorted db) := by
  have rows : (listing.sorted db).Perm (listing.matching db) := by
    have entries := (List.mergeSort_perm ((listing.matching db).map fun row =>
      (listing.sortKey db row, row)) listing.before).map (·.2)
    simpa [sorted, Function.comp_def] using entries
  refine ⟨rows.nodup_iff.2 (distinct.nodup.filter _),
    fun row => rows.mem_iff.trans (mem_matching_iff planned), ?_⟩
  rw [sorted_eq_entries]
  refine List.pairwise_map.2 (((entries_sorted listing db).and (entries_nodup distinct)).imp_of_mem
    fun {a b} ha hb hab => ?_)
  have ha := mem_entries_iff.1 ha
  have hb := mem_entries_iff.1 hb
  refine ⟨a.1, b.1, ha.2 ▸ sortsBy_sortKey planned a.2, hb.2 ▸ sortsBy_sortKey planned b.2, ?_⟩
  show listing.compareEntries a b = .lt
  -- neither entry stands before the other only if they are the same
  have le : (listing.compareEntries a b).isLE := by
    rw [← before_eq]
    exact hab.1
  cases hc : listing.compareEntries a b with
  | lt => rfl
  | gt =>
    rw [hc] at le
    cases le
  | eq =>
    refine absurd (before_antisymm distinct ha hb hab.1 ?_) hab.2
    have swapped : listing.compareEntries b a = (listing.compareEntries a b).swap :=
      Std.OrientedCmp.eq_swap
    rw [before_eq, swapped, hc]
    rfl

/-- Both statements of a listing that the database takes. -/
theorem run_eq (distinct : db.KeysDistinct listing.plan.root)
    (bound : listing.checkConditions = .ok ()) (counted : listing.checkWindow = .ok ()) :
    listing.run db =
      let rows := listing.pageRows db
      ⟨[.count, .data], (rows.forM (Row.check listing.plan.root)).map fun _ =>
        ⟨(listing.sorted db).length, listing.window.page, listing.window.limit, rows⟩⟩ := by
  have total : (listing.sorted db).length = (listing.matching db).length := by
    simp [sorted, List.length_mergeSort]
  simp only [run, bound, counted, countKeys_eq planned distinct, readRows_eq planned distinct,
    total]

end

end Listing

/-- A listing answers how many rows match, and of the matching rows in order those that its window
shows. -/
theorem runListing_eq {defaults : Defaults} {registry : Registry} {db : Database} {entity : String}
    {request : Request} {listing : Listing}
    (compiled : compileListing defaults registry entity request = .ok listing)
    (distinct : db.KeysDistinct listing.plan.root)
    (bound : listing.checkConditions = .ok ()) (counted : listing.checkWindow = .ok ()) :
    ∃ rows, listing.Lists db rows ∧
      runListing defaults registry db entity request =
        ⟨[.count, .data], ((listing.shown rows).forM (Row.check listing.plan.root)).map fun _ =>
          ⟨rows.length, listing.window.page, listing.window.limit, listing.shown rows⟩⟩ := by
  have planned := compileListing_planned compiled
  refine ⟨listing.sorted db, Listing.lists_sorted planned distinct, ?_⟩
  simp only [runListing, compiled, Listing.run_eq planned distinct bound counted, Listing.pageRows,
    Listing.cut_eq_shown]

/-! ## An example -/

namespace Sample

/-- Two pairs that belong to a widget with two parts, and one that belongs to a part. -/
def workshop : Database :=
  ⟨[("widgets", [
      [("id", .int 1), ("name", .text "box")],
      [("id", .int 2), ("name", .text "nut"), ("parent_id", .int 1), ("serial_no", .int 7)],
      [("id", .int 3), ("name", .text "pin"), ("parent_id", .int 1), ("serial_no", .int 3)]]),
    ("pairs", [
      [("left_id", .int 2), ("right_code", .text "x"), ("widget_id", .int 1)],
      [("left_id", .int 1), ("right_code", .text "y"), ("widget_id", .int 2)],
      [("left_id", .int 1), ("right_code", .text "x"), ("widget_id", .int 1)]])]⟩

/-- The first of the pairs whose widget has a part with an n in its name. -/
def partsRequest : Request where
  limit := .int 1
  sortBy := .text "widget.children.serial"
  sortOrder := .text "asc"
  filters := .map [("widget.children.name.like", .text "n")]

end Sample

theorem runListing_eq_parts : ∃ listing rows,
    compileListing {} Sample.registry "pairing" Sample.partsRequest = .ok listing ∧
      listing.Lists Sample.workshop rows ∧
      runListing {} Sample.registry Sample.workshop "pairing" Sample.partsRequest =
        ⟨[.count, .data], ((listing.shown rows).forM (Row.check listing.plan.root)).map fun _ =>
          ⟨rows.length, listing.window.page, listing.window.limit, listing.shown rows⟩⟩ := by
  have accepted : (compileListing {} Sample.registry "pairing" Sample.partsRequest).toOption.any
      (fun listing => listing.checkConditions.toBool && listing.checkWindow.toBool &&
        decide (Sample.workshop.KeysDistinct listing.plan.root)) = true := by decide +kernel
  obtain ⟨listing, compiled, checked⟩ := Outcome.exists_ok_of_any accepted
  simp only [Bool.and_eq_true, decide_eq_true_eq] at checked
  obtain ⟨⟨bound, counted⟩, distinct⟩ := checked
  obtain ⟨rows, lists, run⟩ := runListing_eq compiled distinct (Outcome.eq_ok_of_toBool bound)
    (Outcome.eq_ok_of_toBool counted)
  exact ⟨listing, rows, compiled, lists, run⟩

end RecordListing
