import RecordListing.Number.Decimal
import RecordListing.Proofs.Text.Digits
import RecordListing.Proofs.Text.Pieces

/-!
# Written numbers

A decimal is written as a literal (`Decimal.WrittenAs`), and the literals it is written as are the
texts that are read as the decimal (`Decimal.ofLiteral?_eq_some_iff`). The text of a decimal is such
a literal (`Decimal.writtenAs_text`), so that it is read back digit for digit unless arithmetic on
decimals cannot hold it (`readNumber_text`).
-/

set_option autoImplicit false

namespace RecordListing

open Text Outcome

/-! ## Literals -/

/-- An optional sign, and whether it is a minus. -/
inductive IsSign : Bool → List Char → Prop
  | absent : IsSign false []
  | plus : IsSign false ['+']
  | minus : IsSign true ['-']

/-- The optional power of ten at the end of a literal. -/
inductive IsPower : Int → List Char → Prop
  | absent : IsPower 0 []
  | written {mark : Char} {negative : Bool} {sign digits : List Char} {values : List Nat}
      (marked : mark = 'e' ∨ mark = 'E') (signed : IsSign negative sign) (some_digit : digits ≠ [])
      (read : digits.mapM digitValue? = some values) :
      IsPower (if negative then -(ofDigitValues values : Int) else ofDigitValues values)
        (mark :: (sign ++ digits))

/-- Whether a decimal is written as a literal: a sign, digits with a point among them or without
one, and a power of ten. -/
inductive Decimal.WrittenAs : Decimal → List Char → Prop
  | whole {negative : Bool} {sign digits mark : List Char} {values : List Nat} {power : Int}
      (signed : IsSign negative sign) (some_digit : digits ≠ [])
      (read : digits.mapM digitValue? = some values) (powered : IsPower power mark) :
      WrittenAs ⟨negative, ofDigitValues values, power⟩ (sign ++ (digits ++ mark))
  | pointed {negative : Bool} {sign front back mark : List Char} {values : List Nat} {power : Int}
      (signed : IsSign negative sign) (some_digit : front ++ back ≠ [])
      (read : (front ++ back).mapM digitValue? = some values) (powered : IsPower power mark) :
      WrittenAs ⟨negative, ofDigitValues values, power - back.length⟩
        (sign ++ (front ++ '.' :: (back ++ mark)))

section
variable {cs rest : List Char} {negative : Bool} {power : Int}

theorem IsSign.take {sign : List Char} (h : IsSign negative sign)
    (other : ∀ c ∈ rest.head?, c ≠ '+' ∧ c ≠ '-') :
    takeSign (sign ++ rest) = (negative, rest) := by
  cases h with
  | plus => rfl
  | minus => rfl
  | absent =>
    cases rest with
    | nil => rfl
    | cons c rest =>
      obtain ⟨no_plus, no_minus⟩ := other c rfl
      simp [takeSign, no_plus, no_minus]

/-- A digit is no sign. -/
theorem no_sign_of_digit {c : Char} (h : isDecimalDigit c = true) : c ≠ '+' ∧ c ≠ '-' := by
  constructor <;> rintro rfl <;> revert h <;> decide

theorem IsSign.take_digits {sign : List Char} (h : IsSign negative sign)
    (digits : ∀ c ∈ cs, isDecimalDigit c = true) (some_digit : cs ≠ []) :
    takeSign (sign ++ (cs ++ rest)) = (negative, cs ++ rest) := by
  refine h.take fun c hc => no_sign_of_digit (digits c ?_)
  rw [List.head?_append_of_ne_nil _ some_digit] at hc
  exact List.mem_of_mem_head? hc

/-- Digits without a point are taken as a whole coefficient. -/
theorem takeCoefficient_digits {values : List Nat} (read : cs.mapM digitValue? = some values)
    (some_digit : cs ≠ []) (stop : ∀ c ∈ rest.head?, digitValue? c = none ∧ c ≠ '.') :
    takeCoefficient (cs ++ rest) = some (values, [], rest) := by
  have some_value := values_ne_nil read some_digit
  rw [takeCoefficient, takeDigits_values read fun c hc => (stop c hc).1]
  split
  · rename_i tail ends
    exact absurd rfl (stop '.' (by rw [show rest = '.' :: tail from ends]; rfl)).2
  · simp [some_value]

theorem IsPower.read (h : IsPower power cs) : readExponent? cs = some power := by
  cases h with
  | absent => rfl
  | @written mark negative sign digits values marked signed some_digit read =>
    have taken : takeSign (sign ++ digits) = (negative, digits) := by
      refine signed.take fun c hc => no_sign_of_digit ?_
      exact isDecimalDigit_of_values read c (List.mem_of_mem_head? hc)
    have some_value := values_ne_nil read some_digit
    simp [readExponent?, marked, taken, takeDigits_all read, some_value]

/-- The power of ten begins with no digit and no point. -/
theorem IsPower.start (h : IsPower power cs) :
    ∀ c ∈ cs.head?, digitValue? c = none ∧ c ≠ '.' := by
  cases h with
  | absent => nofun
  | written marked =>
    rintro _ ⟨⟩
    rcases marked with rfl | rfl <;> decide

/-- A literal is read as the decimal that is written as it. -/
theorem Decimal.WrittenAs.read {d : Decimal} (h : d.WrittenAs cs) : ofLiteral? cs = some d := by
  cases h with
  | @whole negative sign digits mark values power signed some_digit read powered =>
    have taken : takeSign (sign ++ (digits ++ mark)) = (negative, digits ++ mark) :=
      signed.take_digits (isDecimalDigit_of_values read) some_digit
    have coefficient := takeCoefficient_digits read some_digit powered.start
    simp [Decimal.ofLiteral?, taken, coefficient, powered.read]
  | @pointed negative sign front back mark values power signed some_digit read powered =>
    obtain ⟨before, after, hf, hb, rfl⟩ := values_split read
    have taken : takeSign (sign ++ (front ++ '.' :: (back ++ mark))) =
        (negative, front ++ '.' :: (back ++ mark)) := by
      refine signed.take fun c hc => ?_
      cases front with
      | nil =>
        cases hc
        decide
      | cons first front =>
        cases hc
        exact no_sign_of_digit (isDecimalDigit_of_values hf c List.mem_cons_self)
    have some_value : (before.isEmpty && after.isEmpty) = false := by
      simpa using values_ne_nil read some_digit
    have coefficient : takeCoefficient (front ++ '.' :: (back ++ mark)) =
        some (before, after, mark) := by
      have point : ∀ c ∈ ('.' :: (back ++ mark)).head?, digitValue? c = none := by
        rintro _ ⟨⟩
        decide
      rw [takeCoefficient, takeDigits_values hf point]
      simp only [takeDigits_values hb fun c hc => (powered.start c hc).1, some_value]
      rfl
    simp [Decimal.ofLiteral?, taken, coefficient, powered.read, length_values hb]

/-- What is taken as a sign is one. -/
theorem exists_takeSign (cs : List Char) :
    ∃ sign, IsSign (takeSign cs).1 sign ∧ cs = sign ++ (takeSign cs).2 := by
  unfold takeSign
  split
  · exact ⟨_, .minus, rfl⟩
  · exact ⟨_, .plus, rfl⟩
  · exact ⟨_, .absent, rfl⟩

theorem IsPower.of_read (h : readExponent? cs = some power) : IsPower power cs := by
  cases cs with
  | nil =>
    cases h
    exact .absent
  | cons mark cs =>
    simp only [readExponent?] at h
    split at h
    · rename_i marked
      obtain ⟨sign, signed, split⟩ := exists_takeSign cs
      generalize takeSign cs = taken at signed split h
      obtain ⟨digits, run, read, -⟩ := exists_takeDigits taken.2
      generalize takeDigits taken.2 = found at run read h
      split at h
      · cases h
      · rename_i complete
        obtain ⟨some_value, nothing_left⟩ : found.1 ≠ [] ∧ found.2 = [] := by
          simpa using complete
        rw [nothing_left, List.append_nil] at run
        have some_digit : digits ≠ [] := by
          rintro rfl
          rw [List.mapM_nil] at read
          exact some_value (Option.some.inj read).symm
        cases h
        rw [split, run]
        exact .written marked signed some_digit read
    · cases h

/-- A coefficient that is taken is digits without a point, or with one among them. -/
theorem takeCoefficient_eq_some {whole fraction : List Nat}
    (h : takeCoefficient cs = some (whole, fraction, rest)) :
    (fraction = [] ∧ ∃ digits, cs = digits ++ rest ∧ digits ≠ [] ∧
      digits.mapM digitValue? = some whole) ∨
    ∃ front back, cs = front ++ '.' :: (back ++ rest) ∧ front ++ back ≠ [] ∧
      (front ++ back).mapM digitValue? = some (whole ++ fraction) ∧
      back.length = fraction.length := by
  obtain ⟨front, split, read, -⟩ := exists_takeDigits cs
  rw [takeCoefficient] at h
  split at h
  · rename_i tail point
    obtain ⟨back, split', read', -⟩ := exists_takeDigits tail
    dsimp only at h
    split at h
    · cases h
    · rename_i some_value
      cases h
      refine .inr ⟨front, back, ?_, ?_, mapM_append_values read read', (length_values read').symm⟩
      · rw [← split', ← point]
        exact split
      · intro no_digit
        obtain ⟨rfl, rfl⟩ := List.append_eq_nil_iff.1 no_digit
        rw [List.mapM_nil] at read read'
        simp [← Option.some.inj read, ← Option.some.inj read'] at some_value
  · split at h
    · cases h
    · rename_i some_value
      cases h
      refine .inl ⟨rfl, front, split, ?_, read⟩
      rintro rfl
      rw [List.mapM_nil] at read
      simp [← Option.some.inj read] at some_value

/-- A decimal is read from the literals it is written as and from no other text. -/
theorem Decimal.ofLiteral?_eq_some_iff {d : Decimal} : ofLiteral? cs = some d ↔ d.WrittenAs cs := by
  refine ⟨fun h => ?_, Decimal.WrittenAs.read⟩
  obtain ⟨sign, signed, split⟩ := exists_takeSign cs
  rw [Decimal.ofLiteral?] at h
  split at h
  · cases h
  · rename_i whole fraction rest coefficient
    obtain ⟨power, powered, rfl⟩ := Option.map_eq_some_iff.1 h
    have powered := IsPower.of_read powered
    generalize takeSign cs = taken at signed split coefficient
    rcases takeCoefficient_eq_some coefficient with
      ⟨rfl, digits, run, some_digit, read⟩ | ⟨front, back, run, some_digit, read, length⟩
    · rw [split, run, List.append_nil, List.length_nil, Int.ofNat_zero, Int.sub_zero]
      exact .whole signed some_digit read powered
    · rw [split, run, ← length]
      exact .pointed signed some_digit read powered

/-- Digits with a hyphen behind them are no literal: their power of ten cannot be read. -/
theorem hyphenated_unread (digits : ∀ c ∈ cs, isDecimalDigit c = true) (some_digit : cs ≠ [])
    (rest : List Char) :
    takeSign (cs ++ '-' :: rest) = (false, cs ++ '-' :: rest) ∧
      ∃ values, takeCoefficient (cs ++ '-' :: rest) = some (values, [], '-' :: rest) ∧
        readExponent? ('-' :: rest) = none := by
  obtain ⟨values, read⟩ := exists_mapM_eq_some_iff.2 digits
  have hyphen : ∀ c ∈ ('-' :: rest).head?, digitValue? c = none ∧ c ≠ '.' := by
    rintro _ ⟨⟩
    decide
  refine ⟨IsSign.absent.take_digits digits some_digit, values, ?_, rfl⟩
  exact takeCoefficient_digits read some_digit hyphen

theorem IsSign.no_blank (h : IsSign negative cs) : ∀ c ∈ cs, isBlank c = false := by
  cases h with
  | absent => nofun
  | plus | minus => exact List.forall_mem_singleton.2 (by decide +kernel)

theorem no_blank_of_values {values : List Nat} (h : cs.mapM digitValue? = some values) :
    ∀ c ∈ cs, isBlank c = false :=
  fun c hc => isBlank_of_isDecimalDigit (isDecimalDigit_of_values h c hc)

theorem IsPower.no_blank (h : IsPower power cs) : ∀ c ∈ cs, isBlank c = false := by
  cases h with
  | absent => nofun
  | written marked signed some_digit read =>
    have marks : isBlank 'e' = false ∧ isBlank 'E' = false := by decide +kernel
    rw [List.forall_mem_cons, List.forall_mem_append]
    refine ⟨?_, signed.no_blank, no_blank_of_values read⟩
    rcases marked with rfl | rfl
    · exact marks.1
    · exact marks.2

theorem Decimal.WrittenAs.no_blank {d : Decimal} (h : d.WrittenAs cs) :
    ∀ c ∈ cs, isBlank c = false := by
  cases h with
  | whole signed some_digit read powered =>
    simp only [List.forall_mem_append]
    exact ⟨signed.no_blank, no_blank_of_values read, powered.no_blank⟩
  | pointed signed some_digit read powered =>
    obtain ⟨_, _, hf, hb, -⟩ := values_split read
    have point : isBlank '.' = false := by decide +kernel
    simp only [List.forall_mem_append, List.forall_mem_cons]
    exact ⟨signed.no_blank, no_blank_of_values hf, point, no_blank_of_values hb, powered.no_blank⟩

/-- A literal is read if arithmetic on decimals can hold its decimal, which is whole where that is
asked for. -/
theorem readNumber_of_writtenAs {s : String} {d : Decimal} (h : d.WrittenAs s.toList)
    (inRange : d.inRange = true) {whole : Bool} (fits : whole = true → d.isWhole = true) :
    readNumber s whole = .ok d := by
  have bare : trimmed s.toList = s.toList := stripped_eq_self h.no_blank
  rw [readNumber, bare, h.read]
  cases whole with
  | false => simp [inRange]
  | true => simp [inRange, fits rfl]

end

/-- A decimal that has been read is one that arithmetic on decimals can hold. -/
theorem inRange_of_readNumber {s : String} {whole : Bool} {d : Decimal}
    (h : readNumber s whole = .ok d) : d.inRange = true := by
  unfold readNumber at h
  split at h
  · cases h
  · split at h
    · cases h
    · rename_i inRange
      split at h
      · cases h
      · cases h
        simpa using inRange

/-! ## Texts of numbers -/

/-- The power of ten at the end of the text of a decimal. -/
theorem isPower_text (leading point : Int) :
    IsPower (leading - point) (if leading = point then "" else
      (if point ≤ leading then "E+" else "E-") ++ Nat.repr (leading - point).natAbs).toList := by
  obtain ⟨values, read, value⟩ := toDigits_values (leading - point).natAbs
  have some_digit := toDigits_ne_nil (leading - point).natAbs
  by_cases same : leading = point
  · rw [if_pos same, same, Int.sub_self]
    exact .absent
  rw [if_neg same, String.toList_append, Nat.toList_repr]
  by_cases more : point ≤ leading
  · have written := IsPower.written (.inr rfl) .plus some_digit read
    rw [if_neg (by decide), value, Int.natAbs_of_nonneg (by omega)] at written
    rw [if_pos more]
    exact written
  · have written := IsPower.written (.inr rfl) .minus some_digit read
    rw [if_pos rfl, value, Int.ofNat_natAbs_of_nonpos (by omega), Int.neg_neg] at written
    rw [if_neg more]
    exact written

/-- Digits with a point before, among or behind them, filled with zeros where it stands before
them. -/
theorem exists_pointed {digits : List Char} {values : List Nat} {point : Int}
    (read : digits.mapM digitValue? = some values) (some_digit : digits ≠ [])
    (inside : point ≤ digits.length) :
    ∃ front back all, (front ++ back).mapM digitValue? = some all ∧
      ofDigitValues all = ofDigitValues values ∧ front ≠ [] ∧
      (back.length : Int) = digits.length - point ∧
      (if point ≤ 0 then '0' :: '.' :: List.replicate (-point).toNat '0' ++ digits
        else if digits.length ≤ point.toNat then
          digits ++ List.replicate (point.toNat - digits.length) '0'
        else digits.take point.toNat ++ '.' :: digits.drop point.toNat) =
      front ++ (if back = [] then [] else '.' :: back) := by
  by_cases before : point ≤ 0
  · have filled := mapM_append_values (zeros_values (-point).toNat) read
    refine ⟨['0'], List.replicate (-point).toNat '0' ++ digits, _,
      mapM_append_values (zeros_values 1) filled,
      (ofDigitValues_zeros 1 _).trans (ofDigitValues_zeros _ _), List.cons_ne_nil _ _, ?_, ?_⟩
    · simp only [List.length_append, List.length_replicate]
      omega
    · rw [if_pos before, if_neg (by simp [some_digit])]
      rfl
  · rw [if_neg before]
    by_cases behind : digits.length ≤ point.toNat
    · have none_left : point.toNat - digits.length = 0 := by omega
      refine ⟨digits, [], values, by rwa [List.append_nil], rfl, some_digit, ?_, ?_⟩
      · simp only [List.length_nil]
        omega
      · rw [if_pos behind, none_left, if_pos rfl]
        rfl
    · have parted : digits.take point.toNat ++ digits.drop point.toNat = digits :=
        List.take_append_drop _ _
      refine ⟨digits.take point.toNat, digits.drop point.toNat, values, by rwa [parted], rfl,
        ?_, ?_, ?_⟩
      · rw [← List.length_pos_iff, List.length_take]
        omega
      · rw [List.length_drop]
        omega
      · have some_back : digits.drop point.toNat ≠ [] := by
          rw [← List.length_pos_iff, List.length_drop]
          omega
        rw [if_neg behind, if_neg some_back]

/-- The text of a decimal is a literal for it. -/
theorem Decimal.writtenAs_text (d : Decimal) : d.WrittenAs d.text.toList := by
  obtain ⟨negative, number, exponent⟩ := d
  obtain ⟨values, read, value⟩ := toDigits_values number
  have some_digit := toDigits_ne_nil number
  have some_length := List.length_pos_iff.2 some_digit
  simp only [Decimal.text]
  generalize Nat.toDigits 10 number = digits at *
  generalize hp : (if exponent ≤ 0 ∧ -6 < exponent + (digits.length : Int) then
    exponent + (digits.length : Int) else 1) = point
  have inside : point ≤ digits.length := by
    rw [← hp]
    split <;> omega
  obtain ⟨front, back, all, all_read, same, some_front, length, shape⟩ :=
    exists_pointed read some_digit inside
  have signed : IsSign negative (if negative then "-" else "").toList := by
    cases negative
    · exact .absent
    · exact .minus
  have powered := isPower_text (exponent + digits.length) point
  simp only [String.toList_append, String.toList_ofList, shape, List.append_assoc]
  generalize (if exponent + (digits.length : Int) = point then "" else _ : String).toList = mark
    at powered ⊢
  rw [← value, ← same]
  by_cases no_point : back = []
  · subst no_point
    rw [List.append_nil] at all_read
    have written := Decimal.WrittenAs.whole signed some_front all_read powered
    have power : exponent + digits.length - point = exponent := by
      rw [List.length_nil] at length
      omega
    rw [power] at written
    simpa using written
  · have written := Decimal.WrittenAs.pointed signed (by simp [some_front]) all_read powered
    have power : exponent + digits.length - point - back.length = exponent := by omega
    rw [power] at written
    simpa [no_point] using written

/-- The text of a decimal is read back as the decimal. -/
theorem readNumber_text {d : Decimal} (h : d.inRange = true) : readNumber d.text false = .ok d :=
  readNumber_of_writtenAs d.writtenAs_text h nofun

/-- The text of a whole number is a literal for it. -/
theorem writtenAs_toString (n : Int) :
    Decimal.WrittenAs ⟨decide (n < 0), n.natAbs, 0⟩ (toString n).toList := by
  obtain ⟨values, read, value⟩ := toDigits_values n.natAbs
  have some_digit := toDigits_ne_nil n.natAbs
  rw [← value, toList_toString_int]
  by_cases negative : n < 0
  · simpa [negative] using Decimal.WrittenAs.whole .minus some_digit read .absent
  · simpa [negative] using Decimal.WrittenAs.whole .absent some_digit read .absent

/-- The text of a whole number is read back as the number, unless it is too long by far. -/
theorem readNumber_toString {n : Int} (short : digitCount n.natAbs ≤ 1000000000000000000) :
    ∃ d, readNumber (toString n) true = .ok d ∧ d.truncate = n := by
  have inRange : Decimal.inRange ⟨decide (n < 0), n.natAbs, 0⟩ = true := by
    simp only [Decimal.inRange, Bool.and_eq_true, decide_eq_true_eq]
    omega
  refine ⟨_, readNumber_of_writtenAs (writtenAs_toString n) inRange fun _ => ?_, ?_⟩
  · simp [Decimal.isWhole]
  · have truncated : Decimal.truncate ⟨decide (n < 0), n.natAbs, 0⟩ =
        if n < 0 then -(n.natAbs : Int) else n.natAbs := by
      simp [Decimal.truncate, tenTo]
    rw [truncated]
    split <;> omega

end RecordListing
