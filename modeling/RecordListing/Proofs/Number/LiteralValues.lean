import Mathlib.Data.List.Induction
import Mathlib.Tactic.FieldSimp
import Mathlib.Tactic.NormNum
import Mathlib.Tactic.Ring
import RecordListing.Query.Coercion
import RecordListing.Proofs.Number.Literals

/-!
# The values of literals

A literal denotes a rational number (`Denotes`), and is read as a decimal of exactly this value, of
any number of digits. A whole number may be asked for, whichever way it is written. Every other text
is malformed, and an integer column takes the whole numbers alone (`readNumber_denotes`).
-/

set_option autoImplicit false

namespace RecordListing

open Text

/-! ## What a literal denotes -/

/-- The sign as a factor. -/
def signFactor (negative : Bool) : ℚ := if negative then -1 else 1

/-- Digits with a point among them or without one, and the number that they are. -/
inductive IsCoefficient : ℚ → List Char → Prop
  | whole {digits : List Char} {values : List Nat} (some_digit : digits ≠ [])
      (read : digits.mapM digitValue? = some values) : IsCoefficient (ofDigitValues values) digits
  | pointed {front back : List Char} {before after : List Nat} (some_digit : front ++ back ≠ [])
      (read : front.mapM digitValue? = some before) (read' : back.mapM digitValue? = some after) :
      IsCoefficient (ofDigitValues before + ofDigitValues after / 10 ^ back.length)
        (front ++ '.' :: back)

/-- The number that a literal denotes: its digits with their sign, times a power of ten. -/
inductive Denotes : ℚ → List Char → Prop
  | mk {negative : Bool} {size : ℚ} {power : Int} {sign digits mark : List Char}
      (signed : IsSign negative sign) (measured : IsCoefficient size digits)
      (powered : IsPower power mark) :
      Denotes (signFactor negative * (size * 10 ^ power)) (sign ++ (digits ++ mark))

/-- The number that a decimal is. -/
def Decimal.value (d : Decimal) : ℚ := signFactor d.negative * (d.digits * 10 ^ d.exponent)

/-- Each digit in front counts ten times as much for every digit behind it. -/
theorem ofDigitValues_append_all (front back : List Nat) : ofDigitValues (front ++ back) =
    ofDigitValues front * 10 ^ back.length + ofDigitValues back := by
  induction back using List.reverseRecOn with
  | nil => simp [ofDigitValues]
  | append_singleton back d ih =>
    rw [← List.append_assoc, ofDigitValues_append, ih, ofDigitValues_append, List.length_append,
      List.length_singleton, pow_succ]
    ring

section
variable {cs : List Char} {d : Decimal} {q : ℚ}

/-- The digits behind the point are as many powers of ten less. -/
theorem pointed_value {before after : List Nat} {places : Nat} (length : after.length = places)
    (power : Int) :
    (ofDigitValues (before ++ after) : ℚ) * 10 ^ (power - places) =
      (ofDigitValues before + ofDigitValues after / 10 ^ places) * 10 ^ power := by
  rw [ofDigitValues_append_all, length, zpow_sub₀ (by norm_num), zpow_natCast]
  push_cast
  field_simp

theorem Decimal.WrittenAs.denotes (h : d.WrittenAs cs) : Denotes d.value cs := by
  cases h with
  | whole signed some_digit read powered => exact .mk signed (.whole some_digit read) powered
  | @pointed negative sign front back mark _ power signed some_digit read powered =>
    obtain ⟨before, after, read₁, read₂, rfl⟩ := values_split read
    have denoted := Denotes.mk signed (.pointed some_digit read₁ read₂) powered
    rw [← pointed_value (length_values read₂) power] at denoted
    simpa [Decimal.value] using denoted

theorem Denotes.exists_writtenAs (h : Denotes q cs) :
    ∃ d : Decimal, d.WrittenAs cs ∧ d.value = q := by
  obtain ⟨signed, measured, powered⟩ := h
  rename_i negative size power sign digits mark
  cases measured with
  | whole some_digit read => exact ⟨_, .whole signed some_digit read powered, rfl⟩
  | @pointed front back before after some_digit read read' =>
    have written := Decimal.WrittenAs.pointed signed some_digit (mapM_append_values read read')
      powered
    refine ⟨_, by simpa using written, ?_⟩
    rw [← pointed_value (length_values read') power]
    rfl

/-- A literal denotes the value of the decimal that it is read as, and no other number. -/
theorem denotes_iff : Denotes q cs ↔ ∃ d, Decimal.ofLiteral? cs = some d ∧ d.value = q := by
  constructor
  · intro h
    obtain ⟨d, written, value⟩ := h.exists_writtenAs
    exact ⟨d, written.read, value⟩
  · rintro ⟨d, read, rfl⟩
    exact (Decimal.ofLiteral?_eq_some_iff.1 read).denotes

end

/-! ## Whole numbers -/

theorem lt_pow_digitCount (n : Nat) : n < 10 ^ digitCount n := by
  induction n using Nat.strongRecOn with
  | ind n ih =>
    by_cases small : n < 10
    · simpa [digitCount, Nat.toDigits_of_lt_base small] using small
    · have shorter := ih (n / 10) (by omega)
      have more : digitCount n = digitCount (n / 10) + 1 := by
        rw [digitCount, Nat.toDigits_eq_if (by decide), if_neg small, List.length_append]
        rfl
      rw [more, pow_succ]
      omega

section
variable {d : Decimal}

/-- The size of a decimal with places behind the point, as a fraction. -/
theorem Decimal.value_of_negative_exponent (h : d.exponent < 0) :
    d.value = signFactor d.negative * (d.digits / 10 ^ (-d.exponent).toNat) := by
  have places : d.exponent = -((-d.exponent).toNat : Int) := by omega
  rw [Decimal.value]
  conv_lhs => rw [places]
  rw [zpow_neg, zpow_natCast, div_eq_mul_inv]

theorem Decimal.isWhole_iff_dvd :
    d.isWhole = true ↔ 0 ≤ d.exponent ∨ 10 ^ (-d.exponent).toNat ∣ d.digits := by
  simp only [Decimal.isWhole, tenTo, Nat.pow_eq, Bool.or_eq_true, Bool.and_eq_true, beq_iff_eq,
    decide_eq_true_eq, ← Nat.dvd_iff_mod_eq_zero]
  constructor
  · rintro ((no_places | zero) | ⟨-, divides⟩)
    · exact .inl (by omega)
    · exact .inr (zero ▸ Nat.dvd_zero _)
    · exact .inr divides
  · rintro (no_places | divides)
    · exact .inl (.inl (by omega))
    · by_cases zero : d.digits = 0
      · exact .inl (.inr zero)
      · have reaches := Nat.le_of_dvd (Nat.pos_of_ne_zero zero) divides
        have fewer := Nat.lt_of_le_of_lt reaches (lt_pow_digitCount d.digits)
        exact .inr ⟨(Nat.pow_lt_pow_iff_right (by decide)).1 fewer, divides⟩

/-- Without a fractional part nothing is cut off. -/
theorem Decimal.truncate_eq_value (h : d.isWhole = true) : (d.truncate : ℚ) = d.value := by
  have signed (size : Nat) : ((if d.negative then -(size : Int) else size : Int) : ℚ) =
      signFactor d.negative * size := by
    cases d.negative <;> simp [signFactor]
  by_cases no_places : 0 ≤ d.exponent
  · have power : d.exponent = (d.exponent.toNat : Int) := (Int.toNat_of_nonneg no_places).symm
    simp only [Decimal.truncate, if_pos no_places, signed, Decimal.value, tenTo, Nat.pow_eq]
    conv_rhs => rw [power, zpow_natCast]
    push_cast
    rfl
  · obtain ⟨size, hs⟩ := (Decimal.isWhole_iff_dvd.1 h).resolve_left no_places
    have scale : 0 < 10 ^ (-d.exponent).toNat := Nat.pow_pos (by decide)
    have cut : d.digits / 10 ^ (-d.exponent).toNat = size :=
      Nat.div_eq_of_eq_mul_right scale hs
    have zero_cut : (if (d.digits == 0) = true then 0 else size) = size := by
      split
      · rename_i zero
        rw [← cut, beq_iff_eq.1 zero, Nat.zero_div]
      · rfl
    have whole : (d.digits : ℚ) / 10 ^ (-d.exponent).toNat = size := by
      rw [hs]
      push_cast
      field_simp
    rw [Decimal.value_of_negative_exponent (by omega), whole, ← signed]
    simp only [Decimal.truncate, if_neg no_places, tenTo, Nat.pow_eq, cut, zero_cut]

theorem Decimal.isWhole_iff : d.isWhole = true ↔ ∃ n : Int, d.value = n := by
  refine ⟨fun h => ⟨_, (Decimal.truncate_eq_value h).symm⟩, fun ⟨n, hn⟩ => ?_⟩
  rw [Decimal.isWhole_iff_dvd, or_iff_not_imp_left]
  intro places
  rw [Decimal.value_of_negative_exponent (by omega)] at hn
  have scaled : (d.digits : ℚ) = signFactor d.negative * n * 10 ^ (-d.exponent).toNat := by
    rw [← hn]
    cases d.negative <;> simp [signFactor]
  have scaled : (d.digits : Int) =
      (if d.negative then -n else n) * 10 ^ (-d.exponent).toNat := by
    cases negative : d.negative <;> rw [negative] at scaled <;> simp [signFactor] at scaled ⊢ <;>
      exact_mod_cast scaled
  have divides : ((10 ^ (-d.exponent).toNat : Nat) : Int) ∣ d.digits := by
    rw [scaled]
    push_cast
    exact Int.dvd_mul_left _ _
  exact Int.natCast_dvd_natCast.1 divides

end

/-! ## Reading -/

section
variable {s : String} {whole : Bool}

/-- A literal that decimals can hold is read, unless it is to be whole and is not. -/
theorem readNumber_of_literal {d : Decimal} (read : Decimal.ofLiteral? (trimmed s.toList) = some d)
    (inRange : d.inRange = true) :
    readNumber s whole =
      if whole = true ∧ d.isWhole = false then .error .malformed else .ok d := by
  rw [readNumber, read]
  cases whole <;> cases fits : d.isWhole <;> simp [inRange, fits]

variable (limits : ∀ d : Decimal, d.WrittenAs (trimmed s.toList) → d.inRange = true)
include limits

/-- A text is read as the number that it denotes, which must be whole if that is asked for. -/
theorem exists_readNumber_iff {q : ℚ} :
    (∃ d, readNumber s whole = .ok d ∧ d.value = q) ↔
      Denotes q (trimmed s.toList) ∧ (whole = true → ∃ n : Int, q = n) := by
  rw [denotes_iff]
  cases read : Decimal.ofLiteral? (trimmed s.toList) with
  | none => simp [readNumber, read]
  | some d =>
    have inRange := limits d (Decimal.ofLiteral?_eq_some_iff.1 read)
    rw [readNumber_of_literal read inRange]
    constructor
    · rintro ⟨found, h, rfl⟩
      split at h
      · cases h
      · rename_i accepted
        cases h
        refine ⟨⟨d, rfl, rfl⟩, fun asked => Decimal.isWhole_iff.1 ?_⟩
        simpa [asked] using accepted
    · rintro ⟨⟨_, ⟨⟩, rfl⟩, fits⟩
      refine ⟨d, if_neg ?_, rfl⟩
      rintro ⟨asked, part⟩
      rw [Decimal.isWhole_iff.2 (fits asked)] at part
      cases part

/-- Any other text is malformed. -/
theorem readNumber_malformed_iff :
    readNumber s whole = .error .malformed ↔
      ¬ ∃ q, Denotes q (trimmed s.toList) ∧ (whole = true → ∃ n : Int, q = n) := by
  simp only [← exists_readNumber_iff limits]
  cases read : Decimal.ofLiteral? (trimmed s.toList) with
  | none => simp [readNumber, read]
  | some d =>
    rw [readNumber_of_literal read (limits d (Decimal.ofLiteral?_eq_some_iff.1 read))]
    split <;> simp

/-- A column of integers takes the whole numbers that texts denote and refuses all other texts. -/
theorem coerce_integer {column : Column} (integer : column.type = .integer) (path : String) :
    (∀ n : Int, column.coerce path (.text s) = .ok (.int n) ↔ Denotes n (trimmed s.toList)) ∧
      ((∀ n : Int, ¬ Denotes n (trimmed s.toList)) →
        column.coerce path (.text s) = .error (.invalidFilterValue path column.kind)) := by
  have text : (Value.text s).toText = s := rfl
  have denoted (n : Int) : (∃ d, readNumber s true = .ok d ∧ d.value = n) ↔
      Denotes n (trimmed s.toList) :=
    (exists_readNumber_iff limits).trans (and_iff_left fun _ => ⟨n, rfl⟩)
  cases read : readNumber s true with
  | error fault =>
    have refused : column.coerce path (.text s) =
        .error (.invalidFilterValue path column.kind) := by
      simp [Column.coerce, integer, ColumnType.coerce?, Value.toInt?, text, read]
    refine ⟨fun n => ?_, fun _ => refused⟩
    rw [refused, ← denoted, read]
    simp
  | ok d =>
    have taken : column.coerce path (.text s) = .ok (.int d.truncate) := by
      simp [Column.coerce, integer, ColumnType.coerce?, Value.toInt?, text, read]
    obtain ⟨literal, fits⟩ := (exists_readNumber_iff limits).1 ⟨d, read, rfl⟩
    have value := Decimal.truncate_eq_value (Decimal.isWhole_iff.2 (fits rfl))
    refine ⟨fun n => ?_, fun no_number => absurd (value ▸ literal) (no_number d.truncate)⟩
    rw [taken, ← denoted, read]
    simp [← value]

end

/-- A text whose power of ten decimals can hold is read if it is a literal, and as the number that
the literal denotes; a whole number may be asked for, and is what a column of integers then holds.
Any other text is malformed. -/
theorem readNumber_denotes {s : String}
    (limits : ∀ d : Decimal, d.WrittenAs (trimmed s.toList) → d.inRange = true) :
    (∀ whole, (∀ q, (∃ d, readNumber s whole = .ok d ∧ d.value = q) ↔
        Denotes q (trimmed s.toList) ∧ (whole = true → ∃ n : Int, q = n)) ∧
      (readNumber s whole = .error .malformed ↔
        ¬ ∃ q, Denotes q (trimmed s.toList) ∧ (whole = true → ∃ n : Int, q = n))) ∧
    ∀ column : Column, column.type = .integer → ∀ path,
      (∀ n : Int, column.coerce path (.text s) = .ok (.int n) ↔ Denotes n (trimmed s.toList)) ∧
      ((∀ n : Int, ¬ Denotes n (trimmed s.toList)) →
        column.coerce path (.text s) = .error (.invalidFilterValue path column.kind)) :=
  ⟨fun _ => ⟨fun _ => exists_readNumber_iff limits, readNumber_malformed_iff limits⟩,
    fun _ integer path => coerce_integer limits integer path⟩

/-- One and a half, times ten, is whole. -/
theorem readNumber_denotes_fifteen :
    (∀ d : Decimal, d.WrittenAs (trimmed " 1.50e1 ".toList) → d.inRange = true) ∧
      Denotes 15 (trimmed " 1.50e1 ".toList) ∧
      (∃ d, readNumber " 1.50e1 " true = .ok d ∧ d.value = 15) ∧
      (Column.plain "serial" .integer).coerce "serial" (.text " 1.50e1 ") = .ok (.int 15) := by
  have literal : Decimal.ofLiteral? (trimmed " 1.50e1 ".toList) = some ⟨false, 150, -1⟩ := by
    decide +kernel
  have limits : ∀ d : Decimal, d.WrittenAs (trimmed " 1.50e1 ".toList) → d.inRange = true := by
    intro d written
    cases written.read.symm.trans literal
    decide
  have fifteen : Denotes ((15 : Int) : ℚ) (trimmed " 1.50e1 ".toList) := by
    refine denotes_iff.2 ⟨_, literal, ?_⟩
    norm_num [Decimal.value, signFactor]
  have reads := readNumber_denotes limits
  refine ⟨limits, by exact_mod_cast fifteen, ?_, ?_⟩
  · exact ((reads.1 true).1 15).2 ⟨by exact_mod_cast fifteen, fun _ => ⟨15, rfl⟩⟩
  · exact ((reads.2 (Column.plain "serial" .integer) rfl "serial").1 15).2 fifteen

end RecordListing
