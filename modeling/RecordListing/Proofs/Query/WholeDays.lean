import RecordListing.Query.Filter
import RecordListing.Proofs.Query.CanonicalTexts

/-!
# Whole days

A text in the form of a date is the day that it names for a column of days (`coerce_date`), and the
first instant of the day for one of points in time (`coerce_datetime`). Columns of numbers, of truth
values and of identifiers take no such text (`coerce?_day_eq_none`).
-/

set_option autoImplicit false

namespace RecordListing

open Text

/-! ## Columns that take days -/

section
variable {s : String} {d : Date} (only : isDateOnly s = true) (h : readDay s = .ok d)
include only h

theorem read_trimmed :
    isDateShaped (trimmed s.toList) = true ∧ Date.read (trimmed s.toList) = .ok d := by
  refine ⟨only, ?_⟩
  unfold readDay at h
  split at h
  · rename_i hd
    cases h
    exact hd
  · cases h

theorem coerce_date (column : Column) (path : String) (type : column.type = .date) :
    column.coerce path (.text s) = .ok (.date d) := by
  obtain ⟨shaped, read⟩ := read_trimmed only h
  simp [Column.coerce, type, ColumnType.coerce?, Value.toDate?_text, shaped, read, Except.toOption]

theorem coerce_datetime (column : Column) (path : String) {zoned : Bool}
    (type : column.type = .datetime zoned) :
    ∃ t : Timestamp, column.coerce path (.text s) = .ok (.datetime t) ∧
      t.wallText = (Timestamp.startOf d).wallText := by
  obtain ⟨shaped, read⟩ := read_trimmed only h
  have first := Timestamp.read?_date shaped read
  cases zoned
  · exact ⟨.startOf d, by simp [Column.coerce, type, ColumnType.coerce?,
      Value.toTimestamp?_text, first], rfl⟩
  · exact ⟨(Timestamp.startOf d).orUniversal, by simp [Column.coerce, type, ColumnType.coerce?,
      Value.toTimestamp?_text, first], rfl⟩

end

/-! ## Columns that take none -/

theorem ofLiteral?_day {cs : List Char} (h : isDateShaped cs = true) :
    Decimal.ofLiteral? cs = none := by
  obtain ⟨a, b, c, d, e, f, g, i, rfl, digits⟩ := isDateShaped_eq h
  have year : ∀ x ∈ [a, b, c, d], isDecimalDigit x = true :=
    fun x hx => digits x (List.mem_append_left [e, f, g, i] hx)
  obtain ⟨sign, values, coefficient, power⟩ :=
    hyphenated_unread year (List.cons_ne_nil _ _) [e, f, '-', g, i]
  show Decimal.ofLiteral? ([a, b, c, d] ++ '-' :: [e, f, '-', g, i]) = none
  simp only [Decimal.ofLiteral?, sign, coefficient, power]
  rfl

theorem length_withoutFrom_le (part : List Char) (skip : Nat) (cs : List Char) :
    (withoutFrom part skip cs).length ≤ cs.length := by
  induction cs generalizing skip with
  | nil => cases skip <;> simp [withoutFrom]
  | cons c cs ih =>
    cases skip with
    | succ skip => exact Nat.le_succ_of_le (ih skip)
    | zero =>
      simp only [withoutFrom]
      split
      · exact Nat.le_succ_of_le (ih _)
      · exact Nat.succ_le_succ (ih 0)

theorem Uuid.length_essence_le (cs : List Char) : (essence cs).length ≤ cs.length := by
  have strip (cs : List Char) : (cs.dropWhile isBrace).length ≤ cs.length :=
    (List.dropWhile_suffix _).length_le
  simp only [essence]
  refine Nat.le_trans (List.length_filter_le _ _) ?_
  rw [List.length_reverse]
  refine Nat.le_trans (strip _) ?_
  rw [List.length_reverse]
  refine Nat.le_trans (strip _) ?_
  exact Nat.le_trans (length_withoutFrom_le _ _ _) (length_withoutFrom_le _ _ _)

/-- Whether no column of this type takes a text in the form of a date. -/
def ColumnType.takesNoDay : ColumnType → Bool
  | .integer | .numeric _ _ | .boolean | .uuid => true
  | _ => false

theorem coerce?_day_eq_none {type : ColumnType} {s : String} (only : isDateOnly s = true)
    (none_taken : type.takesNoDay = true) : type.coerce? (.text s) = none := by
  have literal (whole : Bool) : readNumber s whole = .error .malformed := by
    rw [readNumber, ofLiteral?_day only]
  have length : (trimmed s.toList).length = 10 := by
    obtain ⟨a, b, c, d, e, f, g, i, he, -⟩ := isDateShaped_eq only
    rw [he]
    rfl
  cases type with
  | integer => simp [ColumnType.coerce?, Value.toInt?_text, literal]
  | numeric places exact => simp [ColumnType.coerce?, Value.toNumber?_text, literal]
  | boolean =>
    have word_length : (lowerAscii (String.ofList (trimmed s.toList))).length = 10 := by
      simp [lowerAscii, length]
    have other (word : String) (h : word.length ≠ 10) :
        lowerAscii (String.ofList (trimmed s.toList)) ≠ word := fun he => h (he ▸ word_length)
    simp [ColumnType.coerce?, Value.toBool?_text, other "true" (by decide),
      other "1" (by decide), other "yes" (by decide), other "false" (by decide),
      other "0" (by decide), other "no" (by decide)]
  | uuid =>
    have short : (Uuid.essence (trimmed s.toList)).length ≠ 32 := by
      have le := Uuid.length_essence_le (trimmed s.toList)
      omega
    simp [ColumnType.coerce?, Value.toUuid?_text, Uuid.read?, short]
  | text | date | datetime | choice | json | binary => cases none_taken

end RecordListing
