import RecordListing.Web.QueryString

/-!
# Keys in brackets

A key is taken for the parts of a name if it is that name followed by one or more parts in brackets,
none of them empty (`readBracketKey?_eq_some_iff`). A line feed at its end is passed over.
-/

set_option autoImplicit false

namespace RecordListing

/-- A part in its brackets. -/
def bracketed (part : List Char) : List Char := '[' :: (part ++ [']'])

/-- Whether a part has no brackets inside. -/
def IsPart (part : List Char) : Prop := '[' ∉ part ∧ ']' ∉ part

/-- What may stand after the last bracket of a key. -/
def keyEndings : List (List Char) := [[], ['\n']]

/-! ## Parts -/

/-- A part is read up to the bracket that closes it. -/
theorem bracketParts?_part {rest : List Char} (h : IsPart rest) (part cs : List Char) :
    bracketParts? (some part) (rest ++ ']' :: cs) =
      (bracketParts? none cs).map ((part ++ rest) :: ·) := by
  induction rest generalizing part with
  | nil => simp [bracketParts?]
  | cons c rest ih =>
    obtain ⟨opened, closed⟩ := h
    rw [List.mem_cons, not_or] at opened closed
    rw [List.cons_append, bracketParts?, if_neg (Ne.symm closed.1), if_neg (Ne.symm opened.1),
      ih ⟨opened.2, closed.2⟩, List.append_assoc, List.singleton_append]

theorem bracketParts?_written {parts : List (List Char)} (h : ∀ part ∈ parts, IsPart part)
    {ending : List Char} (he : ending ∈ keyEndings) :
    bracketParts? none (parts.flatMap bracketed ++ ending) = some parts := by
  induction parts with
  | nil =>
    rcases List.mem_cons.1 he with rfl | he
    · rfl
    · rw [List.mem_singleton.1 he]
      rfl
  | cons part parts ih =>
    obtain ⟨first, rest⟩ := List.forall_mem_cons.1 h
    simp only [List.flatMap_cons, bracketed, List.cons_append, List.append_assoc, bracketParts?,
      if_true]
    rw [bracketParts?_part first, List.nil_append, List.nil_append, ih rest]
    rfl

/-- What is written where parts are read; `part` is what has been read of an open one. -/
def WrittenParts (cs : List Char) (parts : List (List Char)) : Option (List Char) → Prop
  | none => (∀ part ∈ parts, IsPart part) ∧
      ∃ ending ∈ keyEndings, cs = parts.flatMap bracketed ++ ending
  | some part => ∃ rest others, parts = (part ++ rest) :: others ∧ IsPart rest ∧
      (∀ other ∈ others, IsPart other) ∧
      ∃ ending ∈ keyEndings, cs = rest ++ ']' :: (others.flatMap bracketed ++ ending)

theorem written_of_bracketParts? {part : Option (List Char)} {cs : List Char}
    {parts : List (List Char)} (h : bracketParts? part cs = some parts) :
    WrittenParts cs parts part := by
  induction cs generalizing part parts with
  | nil =>
    cases part with
    | none =>
      cases h
      exact ⟨nofun, [], List.mem_cons_self, rfl⟩
    | some part => cases h
  | cons c cs ih =>
    cases part with
    | none =>
      rw [bracketParts?] at h
      split at h
      · rename_i opened
        obtain ⟨rest, others, rfl, hr, ho, ending, he, rfl⟩ := ih h
        refine ⟨List.forall_mem_cons.2 ⟨hr, ho⟩, ending, he, ?_⟩
        rw [opened]
        simp [bracketed]
      · split at h
        · rename_i feed
          obtain ⟨rfl, empty⟩ := feed
          cases h
          rw [List.isEmpty_iff] at empty
          exact ⟨nofun, ['\n'], by simp [keyEndings], by rw [empty]; rfl⟩
        · cases h
    | some part =>
      rw [bracketParts?] at h
      split at h
      · rename_i closed
        obtain ⟨others, read, rfl⟩ := Option.map_eq_some_iff.1 h
        obtain ⟨ho, ending, he, rfl⟩ := ih read
        refine ⟨[], others, by rw [List.append_nil], ⟨nofun, nofun⟩, ho, ending, he, ?_⟩
        rw [closed]
        rfl
      · split at h
        · cases h
        · rename_i closed opened
          obtain ⟨rest, others, rfl, hr, ho, ending, he, rfl⟩ := ih h
          refine ⟨c :: rest, others, by simp, ⟨?_, ?_⟩, ho, ending, he, rfl⟩
          · rw [List.mem_cons, not_or]
            exact ⟨Ne.symm opened, hr.1⟩
          · rw [List.mem_cons, not_or]
            exact ⟨Ne.symm closed, hr.2⟩

/-- Parts are read exactly from parts in brackets. -/
theorem bracketParts?_eq_some_iff {cs : List Char} {parts : List (List Char)} :
    bracketParts? none cs = some parts ↔ (∀ part ∈ parts, IsPart part) ∧
      ∃ ending ∈ keyEndings, cs = parts.flatMap bracketed ++ ending := by
  constructor
  · exact written_of_bracketParts?
  · rintro ⟨h, ending, he, rfl⟩
    exact bracketParts?_written h he

/-! ## Keys -/

/-- Whether a key spells a name and parts in brackets. -/
structure Spells (key name : String) (parts : List String) : Prop where
  some_part : parts ≠ []
  filled : ∀ part ∈ parts, part ≠ "" ∧ IsPart part.toList
  text : ∃ ending ∈ keyEndings,
    key.toList = name.toList ++ parts.flatMap (fun part => bracketed part.toList) ++ ending

/-- Whether a text can be the name in front of brackets. -/
structure IsBracketName (name : String) : Prop where
  chars : name.toList.all isNameChar = true
  start : (name.toList.head?.map isNameStart).getD false = true

section
variable {name key : String} {parts : List String}

/-- A name ends where brackets begin. -/
theorem name_ends {cs : List Char} (h : ∀ c ∈ cs, isNameChar c = true) (rest : List Char) :
    (cs ++ '[' :: rest).takeWhile isNameChar = cs ∧
      (cs ++ '[' :: rest).dropWhile isNameChar = '[' :: rest := by
  have bracket : ¬ isNameChar '[' = true := by decide
  constructor
  · rw [List.takeWhile_append_of_pos h, List.takeWhile_cons_of_neg bracket, List.append_nil]
  · rw [List.dropWhile_append_of_pos h, List.dropWhile_cons_of_neg bracket]

theorem readBracketKey?_of_spells (hn : IsBracketName name) (h : Spells key name parts) :
    readBracketKey? key = some (name, parts) := by
  obtain ⟨ending, he, text⟩ := h.text
  cases parts with
  | nil => exact absurd rfl h.some_part
  | cons first others =>
    have inside : ∀ part ∈ (first :: others).map String.toList, IsPart part := by
      intro part hp
      obtain ⟨written, hw, rfl⟩ := List.mem_map.1 hp
      exact (h.filled written hw).2
    have filled : ((first :: others).map String.toList).all (!·.isEmpty) = true := by
      rw [List.all_map, List.all_eq_true]
      intro part hp
      simpa using (h.filled part hp).1
    have read := bracketParts?_written inside he
    rw [List.flatMap_map] at read
    have opened : (first :: others).flatMap (fun part => bracketed part.toList) ++ ending =
        '[' :: (first.toList ++ [']'] ++
          others.flatMap (fun part => bracketed part.toList) ++ ending) := by
      simp [bracketed]
    rw [List.append_assoc, opened] at text
    obtain ⟨taken, dropped⟩ := name_ends (List.all_eq_true.1 hn.chars) (first.toList ++ [']'] ++
      others.flatMap (fun part => bracketed part.toList) ++ ending)
    unfold readBracketKey?
    dsimp only
    rw [text, taken, dropped, ← opened, read]
    simp only [List.map_cons] at filled ⊢
    rw [hn.start, filled]
    simp

theorem spells_of_readBracketKey? (h : readBracketKey? key = some (name, parts)) :
    IsBracketName name ∧ Spells key name parts := by
  unfold readBracketKey? at h
  dsimp only at h
  split at h
  · cases h
  · cases h
  · rename_i written some_part read
    split at h
    · rename_i fits
      rw [Bool.and_eq_true] at fits
      obtain ⟨start, filled⟩ := fits
      cases h
      obtain ⟨inside, ending, he, text⟩ := bracketParts?_eq_some_iff.1 read
      refine ⟨⟨?_, ?_⟩, ⟨?_, ?_, ending, he, ?_⟩⟩
      · rw [String.toList_ofList]
        exact List.all_takeWhile
      · rw [String.toList_ofList]
        exact start
      · simpa using some_part
      · intro part hp
        obtain ⟨cs, hc, rfl⟩ := List.mem_map.1 hp
        have some_char := List.all_eq_true.1 filled cs hc
        rw [String.toList_ofList]
        exact ⟨by simpa using some_char, inside cs hc⟩
      · rw [String.toList_ofList, List.append_assoc, List.flatMap_map]
        simp only [String.toList_ofList]
        rw [← text, List.takeWhile_append_dropWhile]
    · cases h

/-- A key is read as a name with parts exactly if it spells them. -/
theorem readBracketKey?_eq_some_iff :
    readBracketKey? key = some (name, parts) ↔ IsBracketName name ∧ Spells key name parts :=
  ⟨spells_of_readBracketKey?, fun h => readBracketKey?_of_spells h.1 h.2⟩

end

end RecordListing
