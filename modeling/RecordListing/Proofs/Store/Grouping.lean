import Mathlib.Data.List.Nodup
import Mathlib.Data.List.Pairwise
import RecordListing.Store.Statement
import RecordListing.Proofs.Store.Assignment
import RecordListing.Proofs.Store.CellOrder

/-!
# The statements of a listing

Where no two rows of the root have the same key, gathering the joined rows by key gives a group for
each matching row (`groups_eq`), however many ways there are to join it. So the first statement
counts the matching rows (`countKeys_eq`), and the second reads the rows of the page in order
(`readRows_eq`).
-/

set_option autoImplicit false

namespace RecordListing

open JoinPlan

/-! ## Keys of rows -/

/-- Whether no two rows of an entity have the same primary key, as its table demands. -/
def Database.KeysDistinct (db : Database) (entity : Entity) : Prop :=
  (db.rows entity.table).Pairwise fun a b => equalKeys (entity.keyOf a) (entity.keyOf b) = false

instance (db : Database) (entity : Entity) : Decidable (db.KeysDistinct entity) :=
  inferInstanceAs (Decidable (List.Pairwise _ _))

theorem equalKeys_self (key : List Cell) : equalKeys key key = true := by
  simp [equalKeys, Std.ReflCmp.compare_self]

theorem equalKeys_comm (a b : List Cell) : equalKeys a b = equalKeys b a := by
  have swapped : compareKeys a b = (compareKeys b a).swap := Std.OrientedCmp.eq_swap
  rw [equalKeys, equalKeys, swapped]
  cases compareKeys b a <;> rfl

theorem unique_of_pairwise {entity : Entity} {rows : List Row}
    (distinct : rows.Pairwise fun a b => equalKeys (entity.keyOf a) (entity.keyOf b) = false)
    {a b : Row} (ha : a ∈ rows) (hb : b ∈ rows)
    (h : equalKeys (entity.keyOf a) (entity.keyOf b) = true) : a = b := by
  have symm : Std.Symm fun a b => equalKeys (entity.keyOf a) (entity.keyOf b) = false :=
    ⟨fun x y hxy => by rw [equalKeys_comm, hxy]⟩
  by_contra ne
  rw [distinct.forall ha hb ne] at h
  cases h

theorem Database.KeysDistinct.nodup {db : Database} {entity : Entity}
    (distinct : db.KeysDistinct entity) : (db.rows entity.table).Nodup := by
  refine List.Pairwise.imp ?_ distinct
  rintro a b h rfl
  rw [equalKeys_self] at h
  cases h

/-! ## Gathering -/

section
variable {entity : Entity}

theorem addWay_absent {groups : List KeyGroup} {way : JoinedRow}
    (h : ∀ group ∈ groups, equalKeys group.key (entity.keyOf way.root) = false) :
    addWay entity way groups = groups ++ [⟨entity.keyOf way.root, [way]⟩] := by
  induction groups with
  | nil => rfl
  | cons group groups ih =>
    have here := h group List.mem_cons_self
    simp only [addWay, here, Bool.false_eq_true, if_false,
      ih fun g hg => h g (List.mem_cons_of_mem _ hg), List.cons_append]

theorem addWay_present {groups : List KeyGroup} {way : JoinedRow} {ways : List JoinedRow}
    (h : ∀ group ∈ groups, equalKeys group.key (entity.keyOf way.root) = false) :
    addWay entity way (groups ++ [⟨entity.keyOf way.root, ways⟩]) =
      groups ++ [⟨entity.keyOf way.root, ways ++ [way]⟩] := by
  induction groups with
  | nil => simp [addWay, equalKeys_self]
  | cons group groups ih =>
    have here := h group List.mem_cons_self
    simp only [List.cons_append, addWay, here, Bool.false_eq_true, if_false,
      ih fun g hg => h g (List.mem_cons_of_mem _ hg)]

/-- The ways to join one row, whose key is new, become one group. -/
theorem foldl_addWay {groups : List KeyGroup} {row : Row}
    (h : ∀ group ∈ groups, equalKeys group.key (entity.keyOf row) = false)
    {ways : List JoinedRow} (hroot : ∀ way ∈ ways, way.root = row) :
    ways.foldl (fun groups way => addWay entity way groups) groups =
      groups ++ if ways.isEmpty then [] else [⟨entity.keyOf row, ways⟩] := by
  have more (seen rest : List JoinedRow) (hrest : ∀ way ∈ rest, way.root = row) :
      rest.foldl (fun groups way => addWay entity way groups)
          (groups ++ [⟨entity.keyOf row, seen⟩]) =
        groups ++ [⟨entity.keyOf row, seen ++ rest⟩] := by
    induction rest generalizing seen with
    | nil => simp
    | cons way rest ih =>
      obtain rfl := hrest way List.mem_cons_self
      rw [List.foldl_cons, addWay_present h, ih _ fun w hw => hrest w (List.mem_cons_of_mem _ hw),
        List.append_assoc, List.singleton_append]
  cases ways with
  | nil => simp
  | cons way ways =>
    obtain rfl := hroot way List.mem_cons_self
    rw [List.foldl_cons, addWay_absent h,
      more [way] ways fun w hw => hroot w (List.mem_cons_of_mem _ hw)]
    rfl

/-- Gathering the ways to join rows with different keys gives a group for each row that has any. -/
theorem foldl_addWay_flatMap {rows : List Row} (ways : Row → List JoinedRow)
    (hroot : ∀ row ∈ rows, ∀ way ∈ ways row, way.root = row)
    (distinct : rows.Pairwise fun a b => equalKeys (entity.keyOf a) (entity.keyOf b) = false)
    (groups : List KeyGroup)
    (fresh : ∀ group ∈ groups, ∀ row ∈ rows, equalKeys group.key (entity.keyOf row) = false) :
    (rows.flatMap ways).foldl (fun groups way => addWay entity way groups) groups =
      groups ++ (rows.filter fun row => !(ways row).isEmpty).map fun row =>
        ⟨entity.keyOf row, ways row⟩ := by
  induction rows generalizing groups with
  | nil => simp
  | cons row rows ih =>
    obtain ⟨here, later⟩ := List.pairwise_cons.1 distinct
    rw [List.flatMap_cons, List.foldl_append,
      foldl_addWay (fun g hg => fresh g hg row List.mem_cons_self) (hroot row List.mem_cons_self),
      ih (fun r hr => hroot r (List.mem_cons_of_mem _ hr)) later]
    · cases hw : ways row <;> simp [hw]
    · intro group hg other ho
      rcases List.mem_append.1 hg with hg | hg
      · exact fresh group hg other (List.mem_cons_of_mem _ ho)
      · split at hg
        · cases hg
        · rw [List.mem_singleton.1 hg]
          exact here other ho

end

/-! ## Sorting and windows -/

theorem Window.map_cut {α β : Type} (window : Window) (f : α → β) (items : List α) :
    (window.cut items).map f = window.cut (items.map f) := by
  unfold cut
  dsimp only
  split <;> simp

theorem Window.cut_sublist {α : Type} (window : Window) (items : List α) :
    (window.cut items).Sublist items := by
  unfold cut
  dsimp only
  split
  · exact List.drop_sublist _ _
  · exact (List.take_sublist _ _).trans (List.drop_sublist _ _)

namespace Listing

/-- The matching rows in order, each with what it is sorted by. -/
def entries (listing : Listing) (db : Database) : List (Cell × Row) :=
  ((listing.matching db).map fun row => (listing.sortKey db row, row)).mergeSort listing.before

theorem sorted_eq_entries (listing : Listing) (db : Database) :
    listing.sorted db = (listing.entries db).map (·.2) := rfl

theorem before_sorted (listing : Listing) (items : List (Cell × Row)) :
    (items.mergeSort listing.before).Pairwise fun a b => listing.before a b = true := by
  refine List.pairwise_mergeSort (fun a b c hab hbc => ?_) (fun a b => ?_) _
  · rw [before_eq] at *
    exact Std.TransCmp.isLE_trans hab hbc
  · rw [before_eq, before_eq, Bool.or_eq_true]
    cases h : listing.compareEntries a b with
    | lt => exact .inl rfl
    | eq => exact .inl rfl
    | gt =>
      have swapped : listing.compareEntries b a = (listing.compareEntries a b).swap :=
        Std.OrientedCmp.eq_swap
      exact .inr (by rw [swapped, h]; rfl)

theorem entries_sorted (listing : Listing) (db : Database) :
    (listing.entries db).Pairwise fun a b => listing.before a b = true := before_sorted listing _

theorem mem_entries_iff {listing : Listing} {db : Database} {entry : Cell × Row} :
    entry ∈ listing.entries db ↔
      entry.2 ∈ listing.matching db ∧ entry.1 = listing.sortKey db entry.2 := by
  rw [entries, (List.mergeSort_perm _ _).mem_iff, List.mem_map]
  constructor
  · rintro ⟨row, hm, rfl⟩
    exact ⟨hm, rfl⟩
  · rintro ⟨hm, hk⟩
    exact ⟨entry.2, hm, by rw [← hk]⟩

/-- The entries of the page. -/
def pageEntries (listing : Listing) (db : Database) : List (Cell × Row) :=
  listing.window.cut (listing.entries db)

theorem mem_pageEntries {listing : Listing} {db : Database} {entry : Cell × Row}
    (h : entry ∈ listing.pageEntries db) :
    entry.2 ∈ listing.matching db ∧ entry.1 = listing.sortKey db entry.2 :=
  mem_entries_iff.1 ((Window.cut_sublist _ _).subset h)

section
variable {listing : Listing} {db : Database} {registry : Registry} {entity : Entity}
    (planned : Planned registry entity listing.plan.steps)
    (distinct : db.KeysDistinct listing.plan.root)
include distinct

theorem matching_unique {a b : Row} (ha : a ∈ listing.matching db) (hb : b ∈ listing.matching db)
    (h : equalKeys (listing.plan.root.keyOf a) (listing.plan.root.keyOf b) = true) : a = b :=
  unique_of_pairwise distinct (List.mem_filter.1 ha).1 (List.mem_filter.1 hb).1 h

theorem entries_nodup : (listing.entries db).Nodup := by
  rw [entries, (List.mergeSort_perm _ _).nodup_iff]
  exact (distinct.nodup.filter _).map fun a b h => congrArg Prod.snd h

theorem before_antisymm {a b : Cell × Row}
    (ha : a.2 ∈ listing.matching db ∧ a.1 = listing.sortKey db a.2)
    (hb : b.2 ∈ listing.matching db ∧ b.1 = listing.sortKey db b.2)
    (hab : listing.before a b = true) (hba : listing.before b a = true) : a = b := by
  rw [before_eq] at hab hba
  have tie : listing.compareEntries a b = .eq := Std.OrientedCmp.isLE_antisymm hab hba
  have keys : compareKeys (listing.plan.root.keyOf a.2) (listing.plan.root.keyOf b.2) = .eq :=
    (Ordering.then_eq_eq.1 tie).2
  have rows : a.2 = b.2 := matching_unique distinct ha.1 hb.1 (by simp [equalKeys, keys])
  exact Prod.ext (by rw [ha.2, hb.2, rows]) rows

include planned

theorem groups_eq : listing.groups db = (listing.matching db).map fun row =>
    ⟨listing.plan.root.keyOf row, listing.ways db row⟩ := by
  have gathered : listing.selected db =
      (db.rows listing.plan.root.table).flatMap (listing.ways db) := by
    rw [selected, List.filter_flatMap]
    rfl
  rw [groups, gatherByKey, gathered,
    foldl_addWay_flatMap (listing.ways db) (fun row _ way hw =>
      root_of_mem_joinedRows planned (List.mem_filter.1 hw).1) distinct [] (by simp)]
  rfl

/-- The first statement counts the matching rows. -/
theorem countKeys_eq : listing.countKeys db = (listing.matching db).length := by
  rw [countKeys, groups_eq planned distinct, List.length_map]

theorem sortedKeys_eq : listing.sortedKeys db = (listing.entries db).map fun entry =>
    ⟨entry.1, listing.plan.root.keyOf entry.2⟩ := by
  have sorted := List.map_mergeSort (r := listing.before) (s := listing.keyBefore)
    (f := fun entry : Cell × Row => ⟨entry.1, listing.plan.root.keyOf entry.2⟩)
    (l := (listing.matching db).map fun row => (listing.sortKey db row, row))
    fun _ _ _ _ => rfl
  rw [sortedKeys, groups_eq planned distinct, entries, sorted, List.map_map, List.map_map]
  rfl

/-! ### The rows of a page -/

theorem pageKeys_eq : listing.pageKeys db = (listing.pageEntries db).map fun entry =>
    ⟨entry.1, listing.plan.root.keyOf entry.2⟩ := by
  rw [pageKeys, sortedKeys_eq planned distinct, pageEntries, Window.map_cut]

/-- The entries of the page that have the key of a row are the one of the row itself. -/
theorem pageKeys_at {row : Row} (hr : row ∈ db.rows listing.plan.root.table) :
    ((listing.pageKeys db).filter fun entry =>
      equalKeys entry.key (listing.plan.root.keyOf row)).map (fun entry => (entry.sortKey, row)) =
      (listing.pageEntries db).filter fun entry => decide (entry.2 = row) := by
  have own : ∀ entry ∈ listing.pageEntries db,
      equalKeys (listing.plan.root.keyOf entry.2) (listing.plan.root.keyOf row) =
        decide (entry.2 = row) := by
    intro entry h
    rw [Bool.eq_iff_iff, decide_eq_true_iff]
    exact ⟨unique_of_pairwise distinct (List.mem_filter.1 (mem_pageEntries h).1).1 hr,
      fun e => e ▸ equalKeys_self _⟩
  rw [pageKeys_eq planned distinct, List.filter_map, List.map_map]
  simp only [Function.comp_def]
  rw [List.filter_congr own]
  refine (List.map_congr_left fun entry h => ?_).trans (List.map_id _)
  have at_row : entry.2 = row := by simpa using (List.mem_filter.1 h).2
  exact Prod.ext rfl at_row.symm

omit planned in
theorem flatMap_pageEntries_perm :
    ((db.rows listing.plan.root.table).flatMap fun row =>
      (listing.pageEntries db).filter fun entry => decide (entry.2 = row)).Perm
      (listing.pageEntries db) := by
  have nodup : (listing.pageEntries db).Nodup :=
    (entries_nodup distinct).sublist (Window.cut_sublist _ _)
  refine (List.perm_ext_iff_of_nodup ?_ nodup).2 fun entry => ?_
  · refine List.nodup_flatMap.2 ⟨fun row _ => nodup.filter _,
      distinct.nodup.imp fun {a b} ne entry ha hb => ne ?_⟩
    have ea : entry.2 = a := by simpa using (List.mem_filter.1 ha).2
    have eb : entry.2 = b := by simpa using (List.mem_filter.1 hb).2
    exact ea.symm.trans eb
  · simp only [List.mem_flatMap, List.mem_filter, decide_eq_true_eq]
    exact ⟨fun ⟨row, _, h, _⟩ => h,
      fun h => ⟨entry.2, (List.mem_filter.1 (mem_pageEntries h).1).1, h, rfl⟩⟩

/-- The second statement reads the rows of the page in order. -/
theorem readRows_eq : listing.readRows db = listing.pageRows db := by
  have found := @flatMap_pageEntries_perm listing db distinct
  have sorted : ((db.rows listing.plan.root.table).flatMap fun row =>
      (listing.pageEntries db).filter fun entry => decide (entry.2 = row)).mergeSort
        listing.before = listing.pageEntries db := by
    have same := (List.mergeSort_perm _ listing.before).trans found
    refine List.Perm.eq_of_pairwise (fun a b ha hb hab hba => ?_) (before_sorted listing _)
      ((entries_sorted listing db).sublist (Window.cut_sublist _ _)) same
    exact before_antisymm distinct (mem_pageEntries (same.mem_iff.1 ha)) (mem_pageEntries hb)
      hab hba
  rw [pageRows, sorted_eq_entries, ← Window.map_cut]
  simp only [readRows]
  rw [List.flatMap_congr fun row hr => pageKeys_at planned distinct hr, sorted]
  rfl

end

end Listing

end RecordListing
