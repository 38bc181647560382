import RecordListing.Text.Blank
import RecordListing.Proofs.Outcome
import RecordListing.Proofs.Text.Padded

/-!
# Runs of digits

Decimal digits of any script have values, up to the first character that is none they are taken as
these (`takeDigits_values`) and nothing else is taken (`exists_takeDigits`), and the digits that a
number is written with have it as their value (`toDigits_values`). None of them is a blank.
-/

set_option autoImplicit false

namespace RecordListing.Text

open Outcome

variable {cs rest : List Char} {values : List Nat}

theorem isDecimalDigit_of_values (h : cs.mapM digitValue? = some values) :
    ∀ c ∈ cs, isDecimalDigit c = true :=
  exists_mapM_eq_some_iff.1 ⟨values, h⟩

theorem length_values (h : cs.mapM digitValue? = some values) : values.length = cs.length :=
  (mapM_eq_some_iff.1 h).length_eq.symm

theorem values_ne_nil (h : cs.mapM digitValue? = some values) (some_digit : cs ≠ []) :
    values ≠ [] := by
  rw [← List.length_pos_iff, length_values h]
  exact List.length_pos_iff.2 some_digit

/-- Digits are taken up to the first character that is none. -/
theorem takeDigits_values (h : cs.mapM digitValue? = some values)
    (stop : ∀ c ∈ rest.head?, digitValue? c = none) :
    takeDigits (cs ++ rest) = (values, rest) := by
  rw [mapM_eq_some_iff] at h
  induction h with
  | nil =>
    cases rest with
    | nil => rfl
    | cons c rest => simp [takeDigits, stop c rfl]
  | cons first _ ih => simp [takeDigits, first, ih]

theorem takeDigits_all (h : cs.mapM digitValue? = some values) : takeDigits cs = (values, []) := by
  simpa using @takeDigits_values cs [] values h nofun

/-- What is taken are the digits at the front, and what follows begins with no digit. -/
theorem exists_takeDigits (cs : List Char) :
    ∃ front, cs = front ++ (takeDigits cs).2 ∧ front.mapM digitValue? = some (takeDigits cs).1 ∧
      ∀ c ∈ (takeDigits cs).2.head?, digitValue? c = none := by
  induction cs with
  | nil => exact ⟨[], rfl, rfl, nofun⟩
  | cons c cs ih =>
    cases read : digitValue? c with
    | none =>
      have stop : takeDigits (c :: cs) = ([], c :: cs) := by simp [takeDigits, read]
      rw [stop]
      exact ⟨[], rfl, rfl, by rintro _ ⟨⟩; exact read⟩
    | some value =>
      obtain ⟨front, split, values, stop⟩ := ih
      have taken : takeDigits (c :: cs) = (value :: (takeDigits cs).1, (takeDigits cs).2) := by
        simp [takeDigits, read]
      rw [taken]
      exact ⟨c :: front, congrArg (c :: ·) split, by simp [read, values], stop⟩

theorem mapM_append_values {others : List Char} {values' : List Nat}
    (h : cs.mapM digitValue? = some values) (h' : others.mapM digitValue? = some values') :
    (cs ++ others).mapM digitValue? = some (values ++ values') := by
  simp [List.mapM_append, h, h']

theorem values_split {others : List Char} (h : (cs ++ others).mapM digitValue? = some values) :
    ∃ front back, cs.mapM digitValue? = some front ∧ others.mapM digitValue? = some back ∧
      values = front ++ back := by
  simp only [List.mapM_append, Option.bind_eq_bind, Option.bind_eq_some_iff, Option.pure_def,
    Option.some.injEq] at h
  obtain ⟨front, hf, back, hb, rfl⟩ := h
  exact ⟨front, back, hf, hb, rfl⟩

/-- The digits of a number have it as their value. -/
theorem toDigits_values (n : Nat) :
    ∃ values, (Nat.toDigits 10 n).mapM digitValue? = some values ∧ ofDigitValues values = n := by
  induction n using Nat.strongRecOn with
  | ind n ih =>
    by_cases small : n < 10
    · refine ⟨[n], ?_, by simp [ofDigitValues]⟩
      have only : digitValue? (Nat.digitChar n) = some n := digitValue?_digitChar ⟨n, small⟩
      simp [Nat.toDigits_of_lt_base small, only]
    · obtain ⟨values, read, value⟩ := ih (n / 10) (by omega)
      have last : [Nat.digitChar (n % 10)].mapM digitValue? = some [n % 10] := by
        simp [digitValue?_digitChar ⟨n % 10, Nat.mod_lt _ (by decide)⟩]
      refine ⟨values ++ [n % 10], ?_, ?_⟩
      · rw [Nat.toDigits_eq_if (by decide), if_neg small]
        exact mapM_append_values read last
      · rw [ofDigitValues_append, value]
        omega

theorem toDigits_ne_nil (n : Nat) : Nat.toDigits 10 n ≠ [] := by
  rw [Nat.toDigits_eq_if (by decide)]
  split <;> simp

/-- A whole number is written with its sign, if it has one, and its digits. -/
theorem toList_toString_int (n : Int) :
    (toString n).toList = (if n < 0 then ['-'] else []) ++ Nat.toDigits 10 n.natAbs := by
  cases n with
  | ofNat n => exact Nat.toList_repr
  | negSucc n =>
    have shown : toString (Int.negSucc n) = "-" ++ Nat.repr (n + 1) := rfl
    rw [shown, String.toList_append, Nat.toList_repr, if_pos (Int.negSucc_lt_zero n)]
    rfl

theorem zeros_values (count : Nat) :
    (List.replicate count '0').mapM digitValue? = some (List.replicate count 0) := by
  induction count with
  | zero => rfl
  | succ count ih =>
    have zero : digitValue? '0' = some 0 := by decide
    simp [List.replicate_succ, zero, ih]

/-- Zeros in front add nothing. -/
theorem ofDigitValues_zeros (count : Nat) (values : List Nat) :
    ofDigitValues (List.replicate count 0 ++ values) = ofDigitValues values := by
  induction count with
  | zero => rfl
  | succ count ih => simpa [List.replicate_succ, ofDigitValues] using ih

/-- No digit of any script is a blank. -/
theorem isBlank_of_isDecimalDigit {c : Char} (h : isDecimalDigit c = true) : isBlank c = false := by
  have apart : ∀ start ∈ digitZeros, ∀ range ∈ blanks.toList,
      range.2 < start ∨ start + 9 < range.1 := by decide
  rw [isDecimalDigit, digitValue?, Option.isSome_map, List.find?_isSome] at h
  obtain ⟨start, hs, here⟩ := h
  rw [Bool.eq_false_iff]
  intro blank
  rw [isBlank, RangeTable.has, ← Array.any_toList, List.any_eq_true] at blank
  obtain ⟨range, hr, there⟩ := blank
  simp only [Bool.and_eq_true, decide_eq_true_eq] at here there
  rcases apart start hs range hr with below | above <;> omega

end RecordListing.Text
