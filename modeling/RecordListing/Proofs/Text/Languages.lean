import Mathlib.Computability.Language
import Mathlib.Data.List.TakeWhile

/-!
# Languages of texts

What a pattern is said to match, as a language over characters: a character of a kind (`one`), any
number of them (`many`), and a word in small letters or capitals (`spelled`). A pattern is met in a
text if a part of the text is one of its words (`OccursIn`).
-/

set_option autoImplicit false

namespace RecordListing.Text

open Computability

/-- A character of a kind. -/
def one (isOne : Char → Bool) : Language Char := {cs | ∃ c, isOne c = true ∧ cs = [c]}

/-- Any number of characters of a kind, or none. -/
def many (isOne : Char → Bool) : Language Char := (one isOne)∗

/-- A word of small letters, in small letters or capitals. The long s is an s. -/
def spelled (word : List Char) : Language Char :=
  {cs | List.Forall₂ (fun letter c => c.toLower = letter ∨ letter = 's' ∧ c = 'ſ') word cs}

/-- Whether a part of the text is a word of the language. -/
def OccursIn (language : Language Char) (s : String) : Prop := ∃ part ∈ language, part <:+: s.toList

/-- Whether the characters begin with a word of the language. -/
def Begins (language : Language Char) (cs : List Char) : Prop := ∃ part ∈ language, part <+: cs

section
variable {isOne : Char → Bool} {cs : List Char} {l m : Language Char}

theorem mem_many_iff : cs ∈ many isOne ↔ ∀ c ∈ cs, isOne c = true := by
  rw [many, Language.mem_kstar]
  constructor
  · rintro ⟨parts, rfl, each⟩ c hc
    obtain ⟨part, hp, hc⟩ := List.mem_flatten.1 hc
    obtain ⟨d, hd, rfl⟩ := each part hp
    rw [List.mem_singleton.1 hc]
    exact hd
  · intro each
    have singles : (cs.map fun c => [c]).flatten = cs := by
      rw [← List.flatMap_def, List.flatMap_singleton']
    refine ⟨cs.map fun c => [c], singles.symm, fun part hp => ?_⟩
    obtain ⟨c, hc, rfl⟩ := List.mem_map.1 hp
    exact ⟨c, each c hc, rfl⟩

/-- What a text is in small letters, the text spells. -/
theorem mem_spelled_toLower (cs : List Char) : cs ∈ spelled (cs.map Char.toLower) := by
  change List.Forall₂ _ (cs.map Char.toLower) cs
  rw [List.forall₂_map_left_iff]
  exact List.forall₂_same.2 fun c _ => .inl rfl

/-- Each character of a word that is spelled is one of its letters. -/
theorem exists_letter_of_spelled {word : List Char} (h : cs ∈ spelled word) {c : Char}
    (hc : c ∈ cs) : ∃ letter ∈ word, c.toLower = letter ∨ letter = 's' ∧ c = 'ſ' := by
  change List.Forall₂ _ word cs at h
  induction h with
  | nil => cases hc
  | cons first _ ih =>
    rcases List.mem_cons.1 hc with rfl | hc
    · exact ⟨_, List.mem_cons_self, first⟩
    · obtain ⟨letter, hl, same⟩ := ih hc
      exact ⟨letter, List.mem_cons_of_mem _ hl, same⟩

theorem occursIn_iff {s : String} : OccursIn l s ↔ ∃ rest, rest <:+ s.toList ∧ Begins l rest := by
  simp only [OccursIn, Begins, List.infix_iff_prefix_suffix]
  constructor
  · rintro ⟨part, hp, rest, begins, suffix⟩
    exact ⟨rest, suffix, part, hp, begins⟩
  · rintro ⟨rest, suffix, part, hp, begins⟩
    exact ⟨part, hp, rest, begins, suffix⟩

theorem OccursIn.mono (h : ∀ part ∈ l, part ∈ m) {s : String} (occurs : OccursIn l s) :
    OccursIn m s := by
  obtain ⟨part, hp, inside⟩ := occurs
  exact ⟨part, h part hp, inside⟩

/-- A beginning in two parts: what the first part leaves begins with the second. -/
theorem begins_mul_iff :
    Begins (l * m) cs ↔ ∃ part ∈ l, ∃ rest, cs = part ++ rest ∧ Begins m rest := by
  constructor
  · rintro ⟨whole, hw, tail, rfl⟩
    obtain ⟨a, ha, b, hb, rfl⟩ := Language.mem_mul.1 hw
    exact ⟨a, ha, b ++ tail, List.append_assoc a b tail, b, hb, tail, rfl⟩
  · rintro ⟨a, ha, rest, rfl, b, hb, tail, rfl⟩
    exact ⟨a ++ b, Language.mem_mul.2 ⟨a, ha, b, hb, rfl⟩, tail, List.append_assoc a b tail⟩

theorem begins_one_mul_cons {c : Char} :
    Begins (one isOne * m) (c :: cs) ↔ isOne c = true ∧ Begins m cs := by
  rw [begins_mul_iff]
  constructor
  · rintro ⟨_, ⟨d, hd, rfl⟩, rest, split, begins⟩
    cases split
    exact ⟨hd, begins⟩
  · rintro ⟨hc, begins⟩
    exact ⟨[c], ⟨c, hc, rfl⟩, cs, rfl, begins⟩

theorem not_begins_one_mul_nil : ¬ Begins (one isOne * m) [] := by
  rw [begins_mul_iff]
  rintro ⟨_, ⟨d, -, rfl⟩, rest, ⟨⟩, -⟩

theorem begins_many (isOne : Char → Bool) (cs : List Char) : Begins (many isOne) cs :=
  ⟨[], Language.nil_mem_kstar _, List.nil_prefix⟩

/-- A beginning after any number of characters of a kind with which it cannot begin itself: one
after all of them. -/
theorem begins_many_mul_iff (apart : ∀ c cs, Begins m (c :: cs) → isOne c = false)
    (some_char : ¬ Begins m []) :
    Begins (many isOne * m) cs ↔ Begins m (cs.dropWhile isOne) := by
  rw [begins_mul_iff]
  constructor
  · rintro ⟨part, hp, rest, rfl, begins⟩
    cases rest with
    | nil => exact absurd begins some_char
    | cons c rest =>
      have stop : (c :: rest).dropWhile isOne = c :: rest := by
        simp [apart c rest begins]
      rw [List.dropWhile_append_of_pos (mem_many_iff.1 hp), stop]
      exact begins
  · intro begins
    exact ⟨cs.takeWhile isOne, mem_many_iff.2 fun c hc => List.mem_takeWhile_imp hc,
      cs.dropWhile isOne, List.takeWhile_append_dropWhile.symm, begins⟩

end

end RecordListing.Text
