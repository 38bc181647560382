import RecordListing.Proofs.Store.StoredTimes
import RecordListing.Proofs.Time.Calendar

/-!
# The order of stored days

Texts of days are in the order of the days (`compare_date`). Points in time are stored under their
day, so that one comes before the first instant of a day exactly if its day does
(`wall_lt_startOf_iff`).
-/

set_option autoImplicit false

namespace RecordListing

open Text

/-! ## Digits -/

theorem compare_div_mod (m n : Nat) :
    (compare (m / 10) (n / 10)).then (compare (m % 10) (n % 10)) = compare m n := by
  rcases Nat.lt_trichotomy (m / 10) (n / 10) with less | same | more
  · rw [Nat.compare_eq_lt.2 less, Nat.compare_eq_lt.2 (show m < n by omega)]
    rfl
  · rw [Nat.compare_eq_eq.2 same, Ordering.eq_then]
    simp only [Nat.compare_eq_ite_lt, show m % 10 < n % 10 ↔ m < n by omega,
      show n % 10 < m % 10 ↔ n < m by omega]
  · rw [Nat.compare_eq_gt.2 more, Nat.compare_eq_gt.2 (show n < m by omega)]
    rfl

/-- Digits of a fixed width are in the order of the numbers. -/
theorem compareChars_fixedDigits {width m n : Nat} (hm : m < 10 ^ width) (hn : n < 10 ^ width) :
    Cell.compareChars (fixedDigits width m) (fixedDigits width n) = compare m n := by
  induction width generalizing m n with
  | zero =>
    simp only [Nat.pow_zero, Nat.lt_one_iff] at hm hn
    subst hm hn
    rfl
  | succ width ih =>
    rw [Nat.pow_succ'] at hm hn
    have front := ih (Nat.div_lt_of_lt_mul hm) (Nat.div_lt_of_lt_mul hn)
    have digit (k : Nat) : k % 10 < 10 := Nat.mod_lt k (by decide)
    have last : Cell.compareChars [Nat.digitChar (m % 10)] [Nat.digitChar (n % 10)] =
        compare (m % 10) (n % 10) := by
      simp only [Cell.compareChars, Nat.toNat_digitChar_of_lt_ten (digit _), Ordering.then_eq,
        Nat.compare_eq_ite_lt, Nat.add_lt_add_iff_left]
    rw [fixedDigits, fixedDigits, compareChars_append (by simp), front, last, compare_div_mod]

/-! ## Days -/

/-- Stored days compare as the numbers of the days. -/
theorem compare_date (a b : Date) :
    Cell.compare (.text a.text) (.text b.text) = compare a.dayNumber b.dayNumber := by
  obtain ⟨year, -, month, -, day⟩ := a.bounds
  obtain ⟨year', -, month', -, day'⟩ := b.bounds
  have hyphen (us vs : List Char) :
      Cell.compareChars ('-' :: us) ('-' :: vs) = Cell.compareChars us vs := by
    simp [Cell.compareChars]
  simp only [Cell.compare, Date.text_toList]
  rw [compareChars_append (by simp), compareChars_fixedDigits year year', hyphen,
    compareChars_append (by simp), compareChars_fixedDigits (by omega) (by omega), hyphen,
    compareChars_fixedDigits (by omega) (by omega), Date.compare_dayNumber]

/-- What is stored for a point in time comes before the first instant of a day exactly if its day
comes before that day. -/
theorem wall_lt_startOf_iff {t : Timestamp} {d : Date} :
    Cell.compare (.text t.wallText) (.text (Timestamp.startOf d).wallText) = .lt ↔
      t.date.dayNumber < d.dayNumber := by
  rw [← Nat.compare_eq_lt, ← compare_date]
  constructor
  · intro h
    by_contra later
    exact le_wall_of_le_day later h
  · intro h
    simp only [Cell.compare, Timestamp.wallText_toList] at h ⊢
    have same : t.date.text.toList.length = d.text.toList.length := by
      simp [Date.text_toList]
    rw [show (Timestamp.startOf d).date = d from rfl, compareChars_append same, h]
    rfl

end RecordListing
