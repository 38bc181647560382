import Mathlib.Algebra.Group.Nat.Defs
import RecordListing.Text.Pieces
import RecordListing.Time.Iso

/-!
# Numbers of a fixed width

A number below a power of ten is padded to as many digits (`padded_toList`), which are read back
as the number (`takeNumber?_fixedDigits`).
-/

set_option autoImplicit false

namespace RecordListing.Text

/-- The last `width` digits of a number. -/
def fixedDigits : (width n : Nat) → List Char
  | 0, _ => []
  | width + 1, n => fixedDigits width (n / 10) ++ [Nat.digitChar (n % 10)]

theorem fixedDigits_zero (width : Nat) : fixedDigits width 0 = List.replicate width '0' := by
  induction width with
  | zero => rfl
  | succ width ih =>
    rw [fixedDigits, Nat.zero_div, ih, List.replicate_succ']
    rfl

@[simp] theorem length_fixedDigits (width n : Nat) : (fixedDigits width n).length = width := by
  induction width generalizing n with
  | zero => rfl
  | succ width ih => simp [fixedDigits, ih]

theorem padded_toList {width n : Nat} (hw : 0 < width) (h : n < 10 ^ width) :
    (padded width n).toList = fixedDigits width n := by
  simp only [padded, String.toList_append, String.toList_ofList, Nat.toList_repr,
    String.length_toList.symm]
  induction width generalizing n with
  | zero => cases hw
  | succ width ih =>
    rw [fixedDigits]
    by_cases small : n < 10
    · rw [Nat.toDigits_of_lt_base small, Nat.div_eq_of_lt small, Nat.mod_eq_of_lt small,
        fixedDigits_zero]
      simp
    · have more : n / 10 < 10 ^ width := Nat.div_lt_of_lt_mul (by rwa [Nat.pow_succ'] at h)
      have hw : 0 < width := by
        rcases Nat.eq_zero_or_pos width with rfl | hw
        · simp at h
          omega
        · exact hw
      rw [Nat.toDigits_eq_if (by decide), if_neg small, ← ih hw more]
      simp

theorem digit_of_mem_fixedDigits {width n : Nat} {c : Char} (h : c ∈ fixedDigits width n) :
    ∃ d : Fin 10, c = Nat.digitChar d := by
  induction width generalizing n with
  | zero => cases h
  | succ width ih =>
    rw [fixedDigits, List.mem_append, List.mem_singleton] at h
    rcases h with h | rfl
    · exact ih h
    · exact ⟨⟨n % 10, Nat.mod_lt _ (by decide)⟩, rfl⟩

/-- What holds of every digit holds of the digits of a number. -/
theorem forall_mem_fixedDigits {p : Char → Prop} (h : ∀ d : Fin 10, p (Nat.digitChar d))
    (width n : Nat) : ∀ c ∈ fixedDigits width n, p c := by
  intro c hc
  obtain ⟨d, rfl⟩ := digit_of_mem_fixedDigits hc
  exact h d

theorem plainValue?_digitChar : ∀ d : Fin 10, plainValue? (Nat.digitChar d) = some d.1 := by
  decide

theorem digitValue?_digitChar : ∀ d : Fin 10, digitValue? (Nat.digitChar d) = some d.1 := by
  decide

theorem isDecimalDigit_fixedDigits (width n : Nat) :
    ∀ c ∈ fixedDigits width n, isDecimalDigit c = true :=
  forall_mem_fixedDigits (fun d => by rw [isDecimalDigit, digitValue?_digitChar d]; rfl) width n

theorem ofDigitValues_append (ds : List Nat) (d : Nat) :
    ofDigitValues (ds ++ [d]) = ofDigitValues ds * 10 + d := by
  simp [ofDigitValues]

theorem mapM_plainValue?_fixedDigits {width n : Nat} (h : n < 10 ^ width) :
    ((fixedDigits width n).mapM plainValue?).map ofDigitValues = some n := by
  induction width generalizing n with
  | zero =>
    simp only [Nat.pow_zero, Nat.lt_one_iff] at h
    subst h
    rfl
  | succ width ih =>
    have more : n / 10 < 10 ^ width := Nat.div_lt_of_lt_mul (by rwa [Nat.pow_succ'] at h)
    obtain ⟨ds, hd, he⟩ := Option.map_eq_some_iff.1 (ih more)
    have last : plainValue? (Nat.digitChar (n % 10)) = some (n % 10) :=
      plainValue?_digitChar ⟨n % 10, Nat.mod_lt _ (by decide)⟩
    have all : (fixedDigits width (n / 10) ++ [Nat.digitChar (n % 10)]).mapM plainValue? =
        some (ds ++ [n % 10]) := by
      simp [List.mapM_append, hd, last]
    rw [fixedDigits, all, Option.map_some, ofDigitValues_append, he]
    congr 1
    omega

theorem takeNumber?_fixedDigits {width n : Nat} (h : n < 10 ^ width) (rest : List Char) :
    takeNumber? width (fixedDigits width n ++ rest) = some (n, rest) := by
  obtain ⟨ds, hd, he⟩ := Option.map_eq_some_iff.1 (mapM_plainValue?_fixedDigits h)
  have front : (fixedDigits width n ++ rest).take width = fixedDigits width n :=
    List.take_left' (length_fixedDigits width n)
  have back : (fixedDigits width n ++ rest).drop width = rest :=
    List.drop_left' (length_fixedDigits width n)
  simp [takeNumber?, front, back, hd, he]

end RecordListing.Text
