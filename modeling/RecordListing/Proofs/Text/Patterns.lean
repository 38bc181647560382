import Mathlib.Data.List.Infix
import RecordListing.Text.Case
import RecordListing.Text.Like

/-!
# Patterns without wildcards

A text between two percent signs is fitted by the texts that hold it, if it holds no wildcards
itself (`fits_holding_iff`). Otherwise it is fitted by a text that has none of its wildcards
(`fits_withoutWildcards`). On texts of ASCII, lower case is that of each character
(`lowerFrom_ascii`).
-/

set_option autoImplicit false

namespace RecordListing.Text

/-! ## Fitting -/

theorem anyEnd_iff {holds : List Char → Bool} {cs : List Char} :
    anyEnd holds cs = true ↔ ∃ rest, rest <:+ cs ∧ holds rest = true := by
  induction cs with
  | nil => simp [anyEnd]
  | cons c cs ih =>
    rw [anyEnd, Bool.or_eq_true, ih]
    constructor
    · rintro (whole | ⟨rest, suffix, h⟩)
      · exact ⟨c :: cs, List.suffix_refl _, whole⟩
      · exact ⟨rest, suffix.trans (List.suffix_cons c cs), h⟩
    · rintro ⟨rest, suffix, h⟩
      rcases List.suffix_cons_iff.1 suffix with rfl | suffix
      · exact .inl h
      · exact .inr ⟨rest, suffix, h⟩

section
variable {p c : Char} {pattern text : List Char}

@[simp] theorem fits_nil : fits [] text = text.isEmpty := rfl

theorem fits_percent : fits ('%' :: pattern) text = anyEnd (fits pattern) text := rfl

theorem fits_cons_nil (h : p ≠ '%') : fits (p :: pattern) [] = false := by
  simp [fits, h]

theorem fits_cons_cons (h : p ≠ '%') :
    fits (p :: pattern) (c :: text) = ((p == '_' || sameLetter p c) && fits pattern text) := by
  simp [fits, h]

end

/-- Whether a character stands for others in a pattern. -/
def isWildcard (c : Char) : Bool := c == '%' || c == '_'

/-- A pattern that ends in a percent sign and has no other wildcard is fitted by what begins with
it. -/
theorem fits_beginning_iff {part : List Char} (plain : ∀ c ∈ part, isWildcard c = false)
    (text : List Char) :
    fits (part ++ ['%']) text = true ↔ part.map Char.toLower <+: text.map Char.toLower := by
  induction part generalizing text with
  | nil =>
    rw [List.nil_append, fits_percent, anyEnd_iff]
    exact iff_of_true ⟨[], List.nil_suffix, rfl⟩ List.nil_prefix
  | cons p part ih =>
    obtain ⟨own, rest⟩ := List.forall_mem_cons.1 plain
    obtain ⟨percent, underscore⟩ : p ≠ '%' ∧ p ≠ '_' := by simpa [isWildcard] using own
    rw [List.cons_append]
    cases text with
    | nil => simp [fits_cons_nil percent]
    | cons c text =>
      rw [fits_cons_cons percent, Bool.and_eq_true, ih rest, List.map_cons, List.map_cons,
        List.cons_prefix_cons]
      simp [underscore, sameLetter]

/-- A text without wildcards between percent signs is fitted by what holds it, in either case of
letters. -/
theorem fits_holding_iff {part : List Char} (plain : ∀ c ∈ part, isWildcard c = false)
    (text : List Char) :
    fits ('%' :: (part ++ ['%'])) text = true ↔
      part.map Char.toLower <:+: text.map Char.toLower := by
  rw [fits_percent, anyEnd_iff, List.infix_iff_prefix_suffix]
  simp only [fits_beginning_iff plain, List.suffix_map_iff]
  constructor
  · rintro ⟨rest, suffix, begins⟩
    exact ⟨_, begins, rest, suffix, rfl⟩
  · rintro ⟨_, begins, rest, suffix, rfl⟩
    exact ⟨rest, suffix, begins⟩

/-! ## A text that fits a pattern -/

/-- The characters with a hyphen in place of each underscore and nothing in place of percent
signs. -/
def withoutWildcards (pattern : List Char) : List Char :=
  pattern.filterMap fun c => if c = '%' then none else some (if c = '_' then '-' else c)

theorem mem_withoutWildcards {pattern : List Char} {c : Char} (h : c ∈ withoutWildcards pattern) :
    isWildcard c = false ∧ (c ∈ pattern ∨ c = '-') := by
  obtain ⟨own, hm, ho⟩ := List.mem_filterMap.1 h
  split at ho
  · cases ho
  · rename_i percent
    split at ho
    · cases ho
      exact ⟨rfl, .inr rfl⟩
    · rename_i underscore
      cases ho
      exact ⟨by simp [isWildcard, percent, underscore], .inl hm⟩

/-- A pattern is fitted by its own characters without the wildcards. -/
theorem fits_withoutWildcards (pattern : List Char) :
    fits pattern (withoutWildcards pattern) = true := by
  induction pattern with
  | nil => rfl
  | cons p pattern ih =>
    by_cases percent : p = '%'
    · subst percent
      rw [fits_percent, anyEnd_iff]
      exact ⟨_, List.suffix_refl _, ih⟩
    · have first : withoutWildcards (p :: pattern) =
          (if p = '_' then '-' else p) :: withoutWildcards pattern := by
        simp [withoutWildcards, percent]
      rw [first, fits_cons_cons percent, ih, Bool.and_true]
      by_cases underscore : p = '_'
      · simp [underscore]
      · simp [underscore, sameLetter]

/-! ## Lower case -/

/-- Only small letters are the lower case of another character. -/
theorem eq_of_toLower_eq {c x : Char} (h : c.toLower = x) (other : ¬ ('a' ≤ x ∧ x ≤ 'z')) :
    c = x := by
  unfold Char.toLower at h
  split at h
  · rename_i capital
    refine absurd ?_ other
    subst h
    have shift : 'a'.val - 'A'.val = 32 := rfl
    have size : (32 : UInt32).toNat = 32 := rfl
    have capital_a : 'A'.val.toNat = 65 := rfl
    have capital_z : 'Z'.val.toNat = 90 := rfl
    have small_a : 'a'.val.toNat = 97 := rfl
    have small_z : 'z'.val.toNat = 122 := rfl
    simp only [ge_iff_le, UInt32.le_iff_toNat_le, capital_a, capital_z] at capital
    simp only [Char.le_def, UInt32.le_iff_toNat_le, shift, UInt32.toNat_add, size, small_a,
      small_z]
    omega
  · exact h

theorem capitalRuns_eq : capitalRuns.toList = ⟨0x41, 0x5A, 1, 32⟩ :: capitalRuns.toList.tail := rfl

theorem capitalRuns_others : ∀ run ∈ capitalRuns.toList.tail, 0x80 ≤ run.first := by
  decide +kernel

/-- The only capitals of ASCII are the twenty-six letters. -/
theorem find?_capitalRuns {c : Char} (ascii : c.toNat < 0x80) :
    capitalRuns.find? (·.has c) =
      if 0x41 ≤ c.toNat ∧ c.toNat ≤ 0x5A then some ⟨0x41, 0x5A, 1, 32⟩ else none := by
  have others : capitalRuns.toList.tail.find? (·.has c) = none := by
    rw [List.find?_eq_none]
    intro run hr
    have behind := capitalRuns_others run hr
    simp only [CapitalRun.has, Bool.and_eq_true, decide_eq_true_eq, not_and]
    omega
  have first : (⟨0x41, 0x5A, 1, 32⟩ : CapitalRun).has c =
      decide (0x41 ≤ c.toNat ∧ c.toNat ≤ 0x5A) := by
    simp [CapitalRun.has, Nat.mod_one]
  rw [← Array.find?_toList, capitalRuns_eq, List.find?_cons, others, first]
  by_cases letter : 0x41 ≤ c.toNat ∧ c.toNat ≤ 0x5A <;> simp [letter]

theorem lowerChar_ascii (before after : List Char) {c : Char} (ascii : c.toNat < 0x80) :
    lowerChar before c after = [c.toLower] := by
  have dotted : (c.toNat == 0x130) = false := beq_eq_false_iff_ne.2 (by omega)
  have sigma : (c.toNat == 0x3A3) = false := beq_eq_false_iff_ne.2 (by omega)
  have small : (if 0x41 ≤ c.toNat ∧ c.toNat ≤ 0x5A then Char.ofNat (c.toNat + 32) else c) =
      c.toLower := by
    have each : ∀ n : Fin 0x80, (if 0x41 ≤ n.1 ∧ n.1 ≤ 0x5A then Char.ofNat (n.1 + 32)
        else Char.ofNat n) = (Char.ofNat n).toLower := by decide
    simpa only [Char.ofNat_toNat] using each ⟨c.toNat, ascii⟩
  rw [lowerChar, dotted, sigma, find?_capitalRuns ascii, ← small]
  by_cases letter : 0x41 ≤ c.toNat ∧ c.toNat ≤ 0x5A
  · simp only [letter, and_self, if_true]
    rfl
  · simp [letter]

theorem lowerFrom_ascii (before : List Char) {cs : List Char} (ascii : ∀ c ∈ cs, c.toNat < 0x80) :
    lowerFrom before cs = cs.map Char.toLower := by
  induction cs generalizing before with
  | nil => rfl
  | cons c cs ih =>
    obtain ⟨own, rest⟩ := List.forall_mem_cons.1 ascii
    rw [lowerFrom, lowerChar_ascii _ _ own, ih _ rest, List.map_cons, List.singleton_append]

end RecordListing.Text
