import RecordListing.Store.Matching
import RecordListing.Proofs.Query.RefusedTexts
import RecordListing.Proofs.Query.SoughtValues
import RecordListing.Proofs.Store.StoredTimes
import RecordListing.Proofs.Store.Truth
import RecordListing.Proofs.Text.Patterns

/-!
# Searching texts

A search of a column of texts finds those that hold the term literally, letters of ASCII in either
case, exactly if the term has no wildcards and no null character (`searched_literally_iff`): the
term is put into a pattern as it is, where a percent sign and an underscore stand for other
characters and a null character ends the pattern.
-/

set_option autoImplicit false

namespace RecordListing

open Outcome Text

/-- Whether the text has no character but those of ASCII. -/
def IsAscii (s : String) : Prop := ∀ c ∈ s.toList, c.toNat < 0x80

/-- A text as far as the database reads it: up to its first null character. -/
def Cell.readable (s : String) : String := String.ofList (untilEnd s)

/-- Whether a condition is true of the texts of a column that hold the term in either case of
letters. -/
def SearchesLiterally (column : ColumnRef) (term : String) (condition : Condition) : Prop :=
  ∀ (joined : JoinedRow) (s : String), IsAscii s → joined.cell column = .text s →
    (condition.truth joined = .yes ↔
      (lower term).toList <:+: (lower (Cell.readable s)).toList)

section
variable {s term : String} {c : Char}

theorem isAscii_of_all (h : (s.toList.all fun c => c.toNat < 0x80) = true) : IsAscii s :=
  fun c hc => of_decide_eq_true (List.all_eq_true.1 h c hc)

theorem lower_toList (h : IsAscii s) : (lower s).toList = s.toList.map Char.toLower := by
  rw [lower, String.toList_ofList, lowerFrom_ascii [] h]

theorem IsAscii.trim (h : IsAscii s) : IsAscii (trim s) := by
  intro c hc
  rw [Text.trim, String.toList_ofList, trimmed, stripped, List.mem_reverse] at hc
  have kept := (List.dropWhile_suffix _).subset hc
  exact h c ((List.dropWhile_suffix _).subset (List.mem_reverse.1 kept))

theorem ne_end_of_mem_untilEnd (h : c ∈ Cell.untilEnd s) : c.toNat ≠ 0 := by
  simpa using List.mem_takeWhile_imp h

theorem IsAscii.readable (h : IsAscii s) : IsAscii (Cell.readable s) := by
  intro c hc
  rw [Cell.readable, String.toList_ofList] at hc
  exact h c ((List.takeWhile_prefix _).subset hc)

theorem holding_toList (term : String) :
    (holding term).toList = '%' :: (term.toList ++ ['%']) := by
  simp [holding]

/-! ## The pattern of a term -/

/-- A character that a pattern takes literally. -/
def IsLiteral (c : Char) : Prop := isWildcard c = false ∧ c.toNat ≠ 0

/-- A literal term fits the texts that hold it. -/
theorem fits_literal_iff (ascii : IsAscii term) (literal : ∀ c ∈ term.toList, IsLiteral c)
    (text : IsAscii s) :
    fits (Cell.untilEnd (holding term)) (Cell.untilEnd s) = true ↔
      (lower term).toList <:+: (lower (Cell.readable s)).toList := by
  have whole : Cell.untilEnd (holding term) = '%' :: (term.toList ++ ['%']) := by
    rw [untilEnd_eq, holding_toList]
    intro c hc
    rw [holding_toList] at hc
    have ends : c = '%' ∨ c ∈ term.toList := by
      simpa [or_comm, or_assoc] using hc
    rcases ends with rfl | hc
    · decide
    · exact (literal c hc).2
  rw [whole, fits_holding_iff fun c hc => (literal c hc).1, lower_toList ascii,
    lower_toList text.readable, Cell.readable, String.toList_ofList]

/-- The text that a term finds although it may not hold it. -/
def foundBy (term : String) : List Char := withoutWildcards (Cell.untilEnd (holding term))

theorem foundBy_literal (h : c ∈ foundBy term) : IsLiteral c := by
  obtain ⟨plain, hc | rfl⟩ := mem_withoutWildcards h
  · exact ⟨plain, ne_end_of_mem_untilEnd hc⟩
  · exact ⟨plain, by decide⟩

theorem foundBy_ascii (ascii : IsAscii term) : IsAscii (String.ofList (foundBy term)) := by
  intro c hc
  rw [String.toList_ofList] at hc
  obtain ⟨-, hc | rfl⟩ := mem_withoutWildcards hc
  · have front := (List.takeWhile_prefix _).subset hc
    rw [holding_toList] at front
    have ends : c = '%' ∨ c ∈ term.toList := by
      simpa [or_comm, or_assoc] using front
    rcases ends with rfl | hc
    · decide
    · exact ascii c hc
  · decide

/-- A term with a character that is not literal finds a text without that character. -/
theorem literal_of_holds (ascii : IsAscii term)
    (h : (lower term).toList <:+: (lower (String.ofList (foundBy term))).toList) :
    ∀ c ∈ term.toList, IsLiteral c := by
  rw [lower_toList ascii, lower_toList (foundBy_ascii ascii), String.toList_ofList] at h
  intro c hc
  by_contra special
  have no_letter : c.toLower = c ∧ ¬ ('a' ≤ c ∧ c ≤ 'z') := by
    have each : c = '%' ∨ c = '_' ∨ c = Char.ofNat 0 := by
      cases wildcard : isWildcard c with
      | true =>
        have sign : c = '%' ∨ c = '_' := by simpa [isWildcard] using wildcard
        exact or_assoc.1 (.inl sign)
      | false =>
        have ended : c.toNat = 0 := by
          by_contra kept
          exact special ⟨wildcard, kept⟩
        exact .inr (.inr (by rw [← ended, Char.ofNat_toNat]))
    rcases each with rfl | rfl | rfl <;> decide
  obtain ⟨found, hf, same⟩ := List.mem_map.1 (h.subset (List.mem_map_of_mem hc))
  rw [no_letter.1] at same
  exact special (eq_of_toLower_eq same no_letter.2 ▸ foundBy_literal hf)

end

/-! ## Searches -/

section
variable {plan : JoinPlan} {path search : String} {field : Field} {column : ColumnRef}

/-- A search of a column of texts asks whether they fit the pattern of the term. -/
theorem compileSearch_text (found : plan.resolve path = .ok (field, column)) (named : path ≠ "")
    (unblocked : isBlockedField path = false) (texts : column.column.type = .text)
    (some_term : trim search ≠ "") :
    ∃ name, compileSearch plan (.text search) (.list [.text path]) =
      .ok (some (.test (.like column true true
        ⟨name, .text (holding (trim search)), .text⟩))) := by
  have listed : searchPaths [path] = [path] := by simp [searchPaths, named]
  have searched : plan.searched? path = some column := by
    rw [JoinPlan.searched?, unblocked, if_neg Bool.false_ne_true, found]
    rfl
  have uncompared : column.column.type.isCompared = false := by rw [texts]; rfl
  refine ⟨bindName searchSpace 0 path "", ?_⟩
  have compiled := compileSearch_texts plan search [path]
  rw [listed, if_neg (not_or.2 ⟨some_term, List.cons_ne_nil _ _⟩), searchFields_searched searched,
    searchField_uncompared uncompared] at compiled
  exact compiled

/-- The condition is true of the texts that fit the pattern. -/
theorem truth_like {joined : JoinedRow} {s : String} (holds : joined.cell column = .text s)
    (name term : String) :
    Condition.truth joined (.test (.like column true true ⟨name, .text (holding term), .text⟩)) =
        .yes ↔
      fits (Cell.untilEnd (holding term)) (Cell.untilEnd s) = true := by
  have bound : Bind.cell ⟨name, .text (holding term), .text⟩ = .text (holding term) := rfl
  rw [Condition.truth, Test.truth, bound, holds]
  exact Truth.ofBool_eq_yes

/-- Every cell of a column can be met in some joined row. -/
theorem exists_joined (column : ColumnRef) (cell : Cell) :
    ∃ joined : JoinedRow, joined.cell column = cell := by
  refine ⟨⟨[(column.column.physical, cell)],
    [(column.hops, some [(column.column.physical, cell)])]⟩, ?_⟩
  have row : JoinedRow.row? ⟨[(column.column.physical, cell)],
      [(column.hops, some [(column.column.physical, cell)])]⟩ column.hops =
      some [(column.column.physical, cell)] := by
    simp [JoinedRow.row?]
  simp [JoinedRow.cell, row, Row.cell]

end

theorem Sample.widgets_name :
    ∃ target, widgets.resolve "name" = .ok target ∧ target.2.column.type = .text := by
  obtain ⟨target, found, texts⟩ := @exists_ok_of_any _ _ (widgets.resolve "name")
    (fun target => target.2.column.type matches .text) (by decide +kernel)
  refine ⟨target, found, ?_⟩
  cases type : target.2.column.type <;> rw [type] at texts <;> first | rfl | cases texts

/-- A search of a column of texts finds the texts that hold the term exactly if it has no wildcards
and no null character. -/
theorem searched_literally_iff {plan : JoinPlan} {path search : String} {field : Field}
    {column : ColumnRef} (found : plan.resolve path = .ok (field, column)) (named : path ≠ "")
    (unblocked : isBlockedField path = false) (texts : column.column.type = .text)
    (some_term : trim search ≠ "") (ascii : IsAscii search) :
    ∃ condition, compileSearch plan (.text search) (.list [.text path]) = .ok (some condition) ∧
      (SearchesLiterally column (trim search) condition ↔
        ∀ c ∈ (trim search).toList, IsLiteral c) := by
  obtain ⟨name, compiled⟩ := compileSearch_text found named unblocked texts some_term
  refine ⟨_, compiled, fun literally => ?_, fun literal joined s text holds => ?_⟩
  · obtain ⟨joined, holds⟩ := exists_joined column (.text (String.ofList (foundBy (trim search))))
    have readable : ∀ c ∈ (String.ofList (foundBy (trim search))).toList, c.toNat ≠ 0 := by
      intro c hc
      rw [String.toList_ofList] at hc
      exact (foundBy_literal hc).2
    have read : Cell.untilEnd (String.ofList (foundBy (trim search))) = foundBy (trim search) := by
      rw [untilEnd_eq readable, String.toList_ofList]
    have truth := literally joined _ (foundBy_ascii ascii.trim) holds
    rw [truth_like holds, Cell.readable, read] at truth
    exact literal_of_holds ascii.trim (truth.1 (fits_withoutWildcards _))
  · rw [truth_like holds]
    exact fits_literal_iff ascii.trim literal text

theorem searched_literally_bolt :
    ∃ target, Sample.widgets.resolve "name" = .ok target ∧ target.2.column.type = .text ∧
      isBlockedField "name" = false ∧ trim " M8 bolt " ≠ "" ∧ IsAscii " M8 bolt " ∧
      ∃ condition, compileSearch Sample.widgets (.text " M8 bolt ") (.list [.text "name"]) =
          .ok (some condition) ∧
        (SearchesLiterally target.2 (trim " M8 bolt ") condition ↔
          ∀ c ∈ (trim " M8 bolt ").toList, IsLiteral c) := by
  obtain ⟨target, found, text⟩ := Sample.widgets_name
  have unblocked : isBlockedField "name" = false := by decide +kernel
  have some_term : trim " M8 bolt " ≠ "" := by decide +kernel
  have ascii : IsAscii " M8 bolt " := isAscii_of_all (by decide +kernel)
  exact ⟨target, found, text, unblocked, some_term, ascii,
    searched_literally_iff found (by decide) unblocked text some_term ascii⟩

/-- A term with an underscore finds a text that does not hold it. -/
theorem underscore_finds_letter :
    ∃ target condition joined, Sample.widgets.resolve "name" = .ok target ∧
      target.2.column.type = .text ∧
      compileSearch Sample.widgets (.text "a_c") (.list [.text "name"]) = .ok (some condition) ∧
      joined.cell target.2 = .text "abc" ∧ condition.truth joined = .yes ∧
      ¬ (lower (trim "a_c")).toList <:+: (lower (Cell.readable "abc")).toList := by
  obtain ⟨target, found, text⟩ := Sample.widgets_name
  obtain ⟨name, compiled⟩ := compileSearch_text found (by decide) (by decide +kernel) text
    (show trim "a_c" ≠ "" by decide +kernel)
  obtain ⟨joined, holds⟩ := exists_joined target.2 (.text "abc")
  have apart : ¬ (lower (trim "a_c")).toList <:+: (lower (Cell.readable "abc")).toList := by
    have ascii : IsAscii "a_c" ∧ IsAscii "abc" :=
      ⟨isAscii_of_all (by decide +kernel), isAscii_of_all (by decide +kernel)⟩
    rw [lower_toList ascii.1.trim, lower_toList ascii.2.readable]
    decide +kernel
  exact ⟨target, _, joined, found, text, compiled, holds,
    (truth_like holds name _).2 (by decide +kernel), apart⟩

end RecordListing
