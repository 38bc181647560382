import Mathlib.Data.Rat.Defs
import Mathlib.Algebra.Order.Field.Rat
import Mathlib.Algebra.Order.Field.Power
import Mathlib.Order.Compare
import Mathlib.Tactic.Ring
import RecordListing.Store.Matching

/-!
# The order of cells

`Cell.compare` is the lexicographic order of three features of a cell: its tier (nothing, numbers
from the least to the greatest infinity, texts), its size as a rational number and the code points
of its text (`Cell.compare_eq_lex`). So it is a total preorder, and so are the orders made of it:
that of keys (`compareKeys`), that of a sort direction (`SortOrder.compare`) and that of rows with
their sort keys (`Listing.compareEntries`).
-/

set_option autoImplicit false

namespace RecordListing

open Std

/-! ## Numbers -/

theorem compareScaled_eq (m e m' e' : Int) :
    Binary64.compareScaled m e m' e' = compare ((m : ℚ) * 2 ^ e) ((m' : ℚ) * 2 ^ e') := by
  -- both numbers are whole multiples of the smaller power of two
  have scaled (n k low : Int) (h : low ≤ k) :
      (n : ℚ) * 2 ^ k = ((n * twoTo (k - low).toNat : Int) : ℚ) * 2 ^ low := by
    have hk : (2 : ℚ) ^ k = 2 ^ (k - low).toNat * 2 ^ low := by
      rw [← zpow_natCast, Int.toNat_of_nonneg (by omega), ← zpow_add₀ (by norm_num)]
      congr 1
      omega
    rw [hk]
    simp only [twoTo, Nat.pow_eq]
    push_cast
    ring
  have mono : StrictMono fun n : Int => (n : ℚ) * 2 ^ min e e' := fun a b h =>
    mul_lt_mul_of_pos_right (Int.cast_lt.2 h) (zpow_pos (by norm_num) _)
  rw [scaled m e _ (Int.min_le_left e e'), scaled m' e' _ (Int.min_le_right e e')]
  unfold Binary64.compareScaled
  rw [← cmp_eq_compare, ← cmp_eq_compare]
  exact (mono.cmp_map_eq _ _).symm

namespace Cell

/-- Nothing, what is no number, numbers from the least infinity to the greatest, texts. -/
def tier : Cell → Nat
  | .null => 0
  | .real .nan => 1
  | .real (.infinite true) => 2
  | .int _ | .real (.finite _ _ _) => 3
  | .real (.infinite false) => 4
  | .text _ => 5

/-- The number in a cell. -/
def size : Cell → ℚ
  | .int n => n
  | .real (.finite s m e) => Binary64.signedMantissa s m * 2 ^ e
  | _ => 0

/-- The code points of the text in a cell. -/
def codes : Cell → List Nat
  | .text s => s.toList.map Char.toNat
  | _ => []

theorem compareChars_eq (cs ds : List Char) :
    compareChars cs ds = List.compareLex Ord.compare (cs.map Char.toNat) (ds.map Char.toNat) := by
  induction cs generalizing ds with
  | nil => cases ds <;> rfl
  | cons c cs ih =>
    cases ds with
    | nil => rfl
    | cons d ds => simp [compareChars, List.compareLex_cons_cons, ih]

/-- Tier, then size, then text. -/
def compareFeatures : Cell → Cell → Ordering :=
  compareLex (compareOn tier) (compareLex (compareOn size) (compareOn codes))

theorem compare_eq_lex (a b : Cell) : compare a b = compareFeatures a b := by
  rcases a with _ | m | (⟨s, m, e⟩ | (_ | _) | _) | s <;>
    rcases b with _ | n | (⟨t, n, f⟩ | (_ | _) | _) | t
  case int.int =>
    have cast : Ord.compare m n = Ord.compare (m : ℚ) n := by
      rw [← cmp_eq_compare, ← cmp_eq_compare]
      exact (Int.cast_strictMono.cmp_map_eq m n).symm
    simp [compare, compareFeatures, compareLex, compareOn, tier, size, codes, cast]
  case int.real.finite =>
    have swapped (x y : ℚ) : Ord.compare x y = (Ord.compare y x).swap := OrientedCmp.eq_swap
    specialize swapped m (Binary64.signedMantissa t n * 2 ^ f)
    simp [compare, compareFeatures, compareLex, compareOn, tier, size, codes,
      Binary64.compareInt, compareScaled_eq, swapped]
  case real.finite.int =>
    simp [compare, compareFeatures, compareLex, compareOn, tier, size, codes,
      Binary64.compareInt, compareScaled_eq]
  case real.finite.real.finite =>
    simp [compare, compareFeatures, compareLex, compareOn, tier, size, codes,
      Binary64.compare, compareScaled_eq]
  case text.text =>
    simp only [compare, compareChars_eq]
    rfl
  -- in all other cases the tiers differ, or both cells are the same
  all_goals rfl

instance : TransCmp compareFeatures :=
  inferInstanceAs
    (TransCmp (compareLex (compareOn tier) (compareLex (compareOn size) (compareOn codes))))

instance : TransCmp compare := by
  rw [show compare = compareFeatures from funext₂ compare_eq_lex]
  infer_instance

end Cell

/-! ## Keys -/

theorem compareKeys_eq_lex (a b : List Cell) :
    compareKeys a b = List.compareLex Cell.compare a b := by
  induction a generalizing b with
  | nil => cases b <;> rfl
  | cons c a ih =>
    cases b with
    | nil => rfl
    | cons d b => simp [compareKeys, List.compareLex_cons_cons, ih]

instance : TransCmp compareKeys := by
  rw [show compareKeys = List.compareLex Cell.compare from funext₂ compareKeys_eq_lex]
  infer_instance

/-! ## The first of several cells -/

instance (order : SortOrder) : TransCmp order.compare := by
  cases h : order.ascending
  · rw [show order.compare = fun a b => Cell.compare b a by
      funext a b; simp [SortOrder.compare, h]]
    infer_instance
  · rw [show order.compare = Cell.compare by funext a b; simp [SortOrder.compare, h]]
    infer_instance

/-- The first of some cells in a direction, empty ones aside; an empty one if there is no other. -/
structure SortOrder.IsFirst (order : SortOrder) (among : Cell → Prop) (key : Cell) : Prop where
  reached : key = .null ∨ among key
  first : ∀ cell, among cell → cell ≠ .null → key ≠ .null ∧ (order.compare key cell).isLE

theorem SortOrder.IsFirst.unique {order : SortOrder} {among : Cell → Prop} {a b : Cell}
    (ha : order.IsFirst among a) (hb : order.IsFirst among b) : order.compare a b = .eq := by
  by_cases ea : a = .null
  · subst ea
    rcases hb.reached with rfl | hm
    · exact ReflCmp.compare_self
    · by_cases eb : b = .null
      · subst eb; exact ReflCmp.compare_self
      · exact absurd rfl (ha.first b hm eb).1
  · have ma := ha.reached.resolve_left ea
    obtain ⟨eb, hba⟩ := hb.first a ma ea
    exact OrientedCmp.isLE_antisymm (ha.first b (hb.reached.resolve_left eb) eb).2 hba

/-- The better one of two cells in a direction. -/
theorem choose_eq (order : SortOrder) (best cell : Cell) :
    Cell.choose (if order.ascending then .lt else .gt) best cell =
      if cell = .null then best
      else if best = .null ∨ order.compare cell best = .lt then cell else best := by
  have turned : Cell.compare cell best = .gt ↔ Cell.compare best cell = .lt :=
    OrientedCmp.gt_iff_lt
  cases h : order.ascending <;> simp [Cell.choose, Cell.isNull, SortOrder.compare, h, turned]

theorem foldl_choose_isFirst (order : SortOrder) (cells seen : List Cell) (best : Cell)
    (h : order.IsFirst (· ∈ seen) best) :
    order.IsFirst (· ∈ seen ++ cells)
      (cells.foldl (Cell.choose (if order.ascending then .lt else .gt)) best) := by
  induction cells generalizing seen best with
  | nil => simpa using h
  | cons cell cells ih =>
    rw [List.foldl_cons, ← List.singleton_append, ← List.append_assoc]
    refine ih _ _ ?_
    rw [choose_eq]
    split
    · rename_i hc
      refine ⟨h.reached.imp_right fun hm => by simp [hm], fun other hm ho => ?_⟩
      rcases List.mem_append.1 hm with hm | hm
      · exact h.first other hm ho
      · exact absurd ((List.mem_singleton.1 hm).trans hc) ho
    · rename_i hc
      split
      · rename_i hb
        refine ⟨.inr (by simp), fun other hm ho => ⟨hc, ?_⟩⟩
        rcases List.mem_append.1 hm with hm | hm
        · obtain ⟨hn, hle⟩ := h.first other hm ho
          exact Ordering.isLE_of_eq_lt (TransCmp.lt_of_lt_of_isLE (hb.resolve_left hn) hle)
        · rw [List.mem_singleton.1 hm]; exact ReflCmp.isLE_rfl
      · rename_i hb
        obtain ⟨hn, hlt⟩ := not_or.1 hb
        refine ⟨.inr (by simp [h.reached.resolve_left hn]), fun other hm ho => ⟨hn, ?_⟩⟩
        rcases List.mem_append.1 hm with hm | hm
        · exact (h.first other hm ho).2
        · rw [List.mem_singleton.1 hm]
          exact OrientedCmp.isGE_iff_isLE.1 (by
            cases hx : order.compare cell best <;> simp_all)

theorem Sorting.extreme_isFirst (sorting : Sorting) (ways : List JoinedRow) :
    sorting.order.IsFirst (· ∈ ways.map fun joined => joined.cell sorting.column)
      (sorting.extreme ways) := by
  have start : sorting.order.IsFirst (· ∈ ([] : List Cell)) .null := ⟨.inl rfl, by simp⟩
  have all := foldl_choose_isFirst sorting.order
    (ways.map fun joined => joined.cell sorting.column) [] .null start
  cases h : sorting.order.ascending <;>
    simpa [Sorting.extreme, Cell.least, Cell.greatest, h] using all

/-! ## Rows with their sort keys -/

theorem transCmp_on {α β : Type} (cmp : β → β → Ordering) [TransCmp cmp] (f : α → β) :
    TransCmp fun a b => cmp (f a) (f b) where
  eq_swap {a b} := (OrientedCmp.eq_swap : cmp (f a) (f b) = _)
  isLE_trans {a _ c} hab hbc := (TransCmp.isLE_trans hab hbc : (cmp (f a) (f c)).isLE)

namespace Listing

/-- By sort key in the direction of the listing, then by primary key. -/
def compareEntries (listing : Listing) (a b : Cell × Row) : Ordering :=
  (listing.sorting.order.compare a.1 b.1).then
    (compareKeys (listing.plan.root.keyOf a.2) (listing.plan.root.keyOf b.2))

instance (listing : Listing) : TransCmp listing.compareEntries := by
  have first := transCmp_on listing.sorting.order.compare (Prod.fst : Cell × Row → Cell)
  have second := transCmp_on compareKeys fun entry : Cell × Row => listing.plan.root.keyOf entry.2
  exact inferInstanceAs (TransCmp (compareLex _ _))

theorem before_eq (listing : Listing) (a b : Cell × Row) :
    listing.before a b = (listing.compareEntries a b).isLE := by
  show (listing.compareEntries a b != .gt) = _
  cases listing.compareEntries a b <;> rfl

end Listing

end RecordListing
