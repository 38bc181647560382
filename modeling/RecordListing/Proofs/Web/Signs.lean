import RecordListing.Web.Redaction
import RecordListing.Proofs.Text.Languages
import RecordListing.Proofs.Text.Patterns

/-!
# Signs of the inside

The patterns of redaction as languages: paths of source files, queries, and the naming of a schema
or a table. A text is sensitive exactly if one of them occurs in it (`isSensitive_iff`).
-/

set_option autoImplicit false

namespace RecordListing

open Text

/-! ## Languages -/

/-- A slash, characters of a path, and the ending of a source file. -/
def sourcePath : Language Char :=
  one (fun c => c == '/' || c == '\\') * (one isPathChar * many isPathChar) *
    spelled ['.', 'p', 'y']

/-- `SELECT`, and later on the same line `FROM`. -/
def lineQuery : Language Char :=
  spelled ['s', 'e', 'l', 'e', 'c', 't'] * many (· != '\n') * spelled ['f', 'r', 'o', 'm']

/-- A word, a colon or an equals sign, and a name, with blanks around the sign or none. -/
def naming (word : List Char) : Language Char :=
  spelled word * many isBlank * one (fun c => c == ':' || c == '=') * many isBlank *
    (one isWord * many isWord)

/-- The signs of the inside of the program. -/
def insideSigns : List (Language Char) :=
  [sourcePath, lineQuery, naming ['s', 'c', 'h', 'e', 'm', 'a'], naming ['t', 'a', 'b', 'l', 'e']]

/-- Whether a sign of the inside occurs in the text. -/
def ShowsInside (s : String) : Prop := ∃ sign ∈ insideSigns, OccursIn sign s

/-! ## Words -/

section
variable {word cs rest : List Char}

theorem foldLetter_eq_iff {letter c : Char} (plain : letter ≠ 'ſ') :
    foldLetter c = letter ↔ c.toLower = letter ∨ letter = 's' ∧ c = 'ſ' := by
  by_cases long : c = 'ſ'
  · subst long
    have small : Char.toLower 'ſ' = 'ſ' := by decide
    have fold : foldLetter 'ſ' = 's' := by decide
    rw [small, fold]
    simp [plain.symm, eq_comm]
  · have other : c.toNat ≠ 0x17F := fun h => long (Char.toNat_inj.1 h)
    simp [foldLetter, other, long]

theorem afterWord?_eq_some_iff (plain : ∀ letter ∈ word, letter ≠ 'ſ') :
    afterWord? word cs = some rest ↔ ∃ front ∈ spelled word, cs = front ++ rest := by
  induction word generalizing cs with
  | nil =>
    constructor
    · rintro ⟨⟩
      exact ⟨[], .nil, rfl⟩
    · rintro ⟨_, ⟨⟩, rfl⟩
      rfl
  | cons letter word ih =>
    obtain ⟨own, others⟩ := List.forall_mem_cons.1 plain
    cases cs with
    | nil =>
      constructor
      · rintro ⟨⟩
      · rintro ⟨_, ⟨⟩, ⟨⟩⟩
    | cons c cs =>
      rw [afterWord?]
      split
      · rename_i same
        rw [ih others]
        constructor
        · rintro ⟨front, spells, rfl⟩
          exact ⟨c :: front, .cons ((foldLetter_eq_iff own).1 same) spells, rfl⟩
        · rintro ⟨_, spells, split⟩
          cases spells with
          | cons _ spells =>
            cases split
            exact ⟨_, spells, rfl⟩
      · rename_i apart
        constructor
        · rintro ⟨⟩
        · rintro ⟨_, spells, split⟩
          cases spells with
          | cons first _ =>
            cases split
            exact absurd ((foldLetter_eq_iff own).2 first) apart

theorem afterWord?_isSome_iff (plain : ∀ letter ∈ word, letter ≠ 'ſ') :
    (afterWord? word cs).isSome = true ↔ Begins (spelled word) cs := by
  simp only [Option.isSome_iff_exists, afterWord?_eq_some_iff plain, Begins]
  constructor
  · rintro ⟨rest, front, spells, rfl⟩
    exact ⟨front, spells, rest, rfl⟩
  · rintro ⟨front, spells, rest, rfl⟩
    exact ⟨rest, front, spells, rfl⟩

/-- A beginning with a word and more, by what follows the word. -/
theorem begins_spelled_mul_iff (plain : ∀ letter ∈ word, letter ≠ 'ſ') {m : Language Char} :
    Begins (spelled word * m) cs ↔ ∃ rest, afterWord? word cs = some rest ∧ Begins m rest := by
  simp only [begins_mul_iff, afterWord?_eq_some_iff plain]
  constructor
  · rintro ⟨front, spells, rest, split, begins⟩
    exact ⟨rest, ⟨front, spells, split⟩, begins⟩
  · rintro ⟨rest, ⟨front, spells, split⟩, begins⟩
    exact ⟨front, spells, rest, split, begins⟩

/-- Words that are spelled begin with one of their letters. -/
theorem begins_spelled_cons {letter c : Char} (h : Begins (spelled (letter :: word)) (c :: cs)) :
    c.toLower = letter ∨ letter = 's' ∧ c = 'ſ' := by
  obtain ⟨_, spells, rest, split⟩ := h
  cases spells with
  | cons first _ =>
    cases split
    exact first

/-- A word without a line feed is spelled without one. -/
theorem ne_lineFeed_of_spelled (plain : '\n' ∉ word) (h : cs ∈ spelled word) :
    ∀ c ∈ cs, (c != '\n') = true := by
  intro c hc
  obtain ⟨letter, hl, same⟩ := exists_letter_of_spelled h hc
  rw [bne_iff_ne]
  rintro rfl
  have small : Char.toLower '\n' = '\n' := by decide
  rcases same with same | ⟨-, long⟩
  · rw [small] at same
    exact plain (same ▸ hl)
  · exact absurd long (by decide)

theorem not_begins_spelled_nil {letter : Char} : ¬ Begins (spelled (letter :: word)) [] := by
  rintro ⟨_, ⟨⟩, rest, ⟨⟩⟩

end

/-! ## Letters and numbers -/

theorem has_iff {table : RangeTable} {c : Char} :
    table.has c = true ↔ ∃ range ∈ table.toList, range.1 ≤ c.toNat ∧ c.toNat ≤ range.2 := by
  rw [RangeTable.has, ← Array.any_toList, List.any_eq_true]
  simp only [Bool.and_eq_true, decide_eq_true_eq]

theorem isWord_iff {c : Char} :
    isWord c = true ↔
      ∃ range ∈ (0x5F, 0x5F) :: letterOrNumber.toList, range.1 ≤ c.toNat ∧ c.toNat ≤ range.2 := by
  have underscore : c = '_' ↔ 0x5F ≤ c.toNat ∧ c.toNat ≤ 0x5F := by
    rw [← Char.toNat_inj]
    exact ⟨fun h => by rw [h]; decide, fun h => Nat.le_antisymm h.2 h.1⟩
  rw [isWord, Bool.or_eq_true, beq_iff_eq, has_iff, underscore, List.exists_mem_cons_iff]

/-- A point is no character of a path. -/
theorem isPathChar_point : isPathChar '.' = false := by
  have apart : ∀ range ∈ (0x5F, 0x5F) :: letterOrNumber.toList,
      ¬ (range.1 ≤ '.'.toNat ∧ '.'.toNat ≤ range.2) := by decide +kernel
  have plain : isWord '.' = false := by
    rw [Bool.eq_false_iff, Ne, isWord_iff]
    rintro ⟨range, hr, here⟩
    exact apart range hr here
  simp [isPathChar, plain]

/-- No blank is a letter, a number or the underscore. -/
theorem isBlank_of_isWord {c : Char} (h : isWord c = true) : isBlank c = false := by
  have apart : ∀ range ∈ (0x5F, 0x5F) :: letterOrNumber.toList, ∀ gap ∈ blanks.toList,
      gap.2 < range.1 ∨ range.2 < gap.1 := by decide +kernel
  obtain ⟨range, hr, here⟩ := isWord_iff.1 h
  rw [Bool.eq_false_iff, Ne, isBlank, has_iff]
  rintro ⟨gap, hg, there⟩
  rcases apart range hr gap hg with below | above <;> omega

/-! ## Signs at the front -/

section
variable {cs : List Char}

theorem beginsSourcePath_iff : beginsSourcePath cs = true ↔ Begins sourcePath cs := by
  have plain : ∀ letter ∈ ['.', 'p', 'y'], letter ≠ 'ſ' := by simp
  have apart : ∀ c cs, Begins (spelled ['.', 'p', 'y']) (c :: cs) → isPathChar c = false := by
    intro c cs begins
    rcases begins_spelled_cons begins with point | ⟨⟨⟩, -⟩
    rw [eq_of_toLower_eq point (by decide)]
    exact isPathChar_point
  rw [sourcePath, mul_assoc, mul_assoc]
  cases cs with
  | nil => exact iff_of_false Bool.false_ne_true not_begins_one_mul_nil
  | cons c cs =>
    rw [begins_one_mul_cons, beginsSourcePath]
    cases cs with
    | nil => simp [not_begins_one_mul_nil]
    | cons d ds =>
      rw [begins_one_mul_cons, begins_many_mul_iff apart not_begins_spelled_nil,
        ← afterWord?_isSome_iff plain]
      by_cases inner : isPathChar d = true <;> simp [inner]

theorem beginsQuery_iff : beginsQuery cs = true ↔ Begins lineQuery cs := by
  have plain : ∀ letter ∈ ['s', 'e', 'l', 'e', 'c', 't'], letter ≠ 'ſ' := by simp
  have plain' : ∀ letter ∈ ['f', 'r', 'o', 'm'], letter ≠ 'ſ' := by simp
  have later : ∀ rest, anyEnd (fun tail => (afterWord? ['f', 'r', 'o', 'm'] tail).isSome)
        (rest.takeWhile (· != '\n')) = true ↔
      Begins (many (· != '\n') * spelled ['f', 'r', 'o', 'm']) rest := by
    intro rest
    simp only [anyEnd_iff, afterWord?_isSome_iff plain', begins_mul_iff]
    constructor
    · rintro ⟨tail, ⟨gap, split⟩, front, spells, rest', rfl⟩
      have line : ∀ c ∈ gap, (c != '\n') = true := by
        intro c hc
        have inner : c ∈ rest.takeWhile (· != '\n') := split ▸ List.mem_append_left _ hc
        simpa using List.mem_takeWhile_imp inner
      refine ⟨gap, mem_many_iff.2 line, front ++ (rest' ++ rest.dropWhile (· != '\n')), ?_,
        front, spells, List.prefix_append ..⟩
      rw [← List.append_assoc front, ← List.append_assoc, split, List.takeWhile_append_dropWhile]
    · rintro ⟨gap, hg, _, rfl, front, spells, tail, rfl⟩
      have line : ∀ c ∈ gap ++ front, (c != '\n') = true := by
        intro c hc
        rcases List.mem_append.1 hc with hc | hc
        · exact mem_many_iff.1 hg c hc
        · exact ne_lineFeed_of_spelled (by decide) spells c hc
      refine ⟨front ++ tail.takeWhile (· != '\n'), ⟨gap, ?_⟩, front, spells, List.prefix_append ..⟩
      rw [← List.append_assoc, ← List.append_assoc, List.takeWhile_append_of_pos line]
  rw [beginsQuery, lineQuery, mul_assoc, begins_spelled_mul_iff plain]
  cases afterWord? ['s', 'e', 'l', 'e', 'c', 't'] cs <;> simp [later]

theorem beginsNaming_iff {word : List Char} (plain : ∀ letter ∈ word, letter ≠ 'ſ') :
    beginsNaming word cs = true ↔ Begins (naming word) cs := by
  have sign_apart : ∀ c, (c == ':' || c == '=') = true → isBlank c = false := by
    intro c sign
    rcases Bool.or_eq_true_iff.1 sign with h | h <;> rw [beq_iff_eq.1 h] <;> decide +kernel
  rw [beginsNaming, naming, mul_assoc, mul_assoc, mul_assoc, begins_spelled_mul_iff plain]
  cases afterWord? word cs with
  | none => simp
  | some rest =>
    simp only [Option.some.injEq, exists_eq_left']
    rw [begins_many_mul_iff _ not_begins_one_mul_nil]
    · cases rest.dropWhile isBlank with
      | nil => exact iff_of_false Bool.false_ne_true not_begins_one_mul_nil
      | cons c tail =>
        rw [begins_one_mul_cons, begins_many_mul_iff _ not_begins_one_mul_nil, Bool.and_eq_true]
        · cases tail.dropWhile isBlank with
          | nil => simp [not_begins_one_mul_nil]
          | cons d more => simp [begins_one_mul_cons, begins_many]
        · exact fun d more begins => isBlank_of_isWord (begins_one_mul_cons.1 begins).1
    · exact fun c tail begins => sign_apart c (begins_one_mul_cons.1 begins).1

theorem beginsSensitive_iff : beginsSensitive cs = true ↔ ∃ sign ∈ insideSigns, Begins sign cs := by
  have schema_plain : ∀ letter ∈ ['s', 'c', 'h', 'e', 'm', 'a'], letter ≠ 'ſ' := by simp
  have table_plain : ∀ letter ∈ ['t', 'a', 'b', 'l', 'e'], letter ≠ 'ſ' := by simp
  simp only [beginsSensitive, Bool.or_eq_true, beginsSourcePath_iff, beginsQuery_iff,
    beginsNaming_iff schema_plain, beginsNaming_iff table_plain, insideSigns, List.mem_cons,
    List.not_mem_nil, or_false, exists_eq_or_imp, exists_eq_left, or_assoc]

end

/-- A text is sensitive exactly if a sign of the inside occurs in it. -/
theorem isSensitive_iff {s : String} : isSensitive s = true ↔ ShowsInside s := by
  simp only [isSensitive, anyEnd_iff, beginsSensitive_iff, ShowsInside, occursIn_iff]
  constructor
  · rintro ⟨rest, suffix, sign, hs, begins⟩
    exact ⟨sign, hs, rest, suffix, begins⟩
  · rintro ⟨sign, hs, rest, suffix, begins⟩
    exact ⟨rest, suffix, sign, hs, begins⟩

end RecordListing
