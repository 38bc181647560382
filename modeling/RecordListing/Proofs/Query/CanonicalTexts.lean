import RecordListing.Query.Coercion
import RecordListing.Proofs.Number.Literals
import RecordListing.Proofs.Text.Identifiers
import RecordListing.Proofs.Time.Written

/-!
# Canonical texts

A value that a column has accepted is accepted again as it is, and its canonical text is accepted
for it (`coerce_canonicalText`). The text stands for the same value, with two exceptions: an offset
of less than a second is lost, and a member of an enumeration that a column of labels has accepted
becomes the label.
-/

set_option autoImplicit false

namespace RecordListing

open Text

/-! ## How texts are read -/

namespace Value

variable (s : String)

theorem toBool?_text : (Value.text s).toBool? =
    let word := lowerAscii (String.ofList (trimmed s.toList))
    if word = "true" ∨ word = "1" ∨ word = "yes" then some true
    else if word = "false" ∨ word = "0" ∨ word = "no" then some false
    else none := rfl

theorem toInt?_text : (Value.text s).toInt? =
    match readNumber s true with
    | .ok d => some d.truncate
    | .error _ => none := rfl

theorem toNumber?_text (exact : Bool) : (Value.text s).toNumber? exact =
    match readNumber s false with
    | .ok d => some (if exact then .decimal d else .float (.ofDecimal d))
    | .error _ => none := rfl

theorem toUuid?_text : (Value.text s).toUuid? = Uuid.read? (trimmed s.toList) := rfl

theorem toTimestamp?_text (zoned : Bool) : (Value.text s).toTimestamp? zoned =
    if zoned then (Timestamp.read? (trimmed s.toList)).map Timestamp.orUniversal
    else Timestamp.read? (trimmed s.toList) := rfl

theorem toDate?_text : (Value.text s).toDate? =
    if isDateShaped (trimmed s.toList) then (Date.read (trimmed s.toList)).toOption
    else (Timestamp.read? (trimmed s.toList)).map Timestamp.date := rfl

end Value

/-! ## Values as texts -/

/-- The text that a value of a column is written as. -/
def Value.canonicalText : Value → String
  | .datetime t => t.isoText
  | .member m => m.value
  | value => value.toText

namespace ColumnType

/-- Whether the values of the column have canonical texts: not those that are kept as they come, nor
binary fractions. -/
def hasCanonicalTexts : ColumnType → Bool
  | .json | .binary => false
  | .numeric _ exact => exact
  | _ => true

/-- The value that the canonical text of an accepted value stands for. -/
def reread (type : ColumnType) : Value → Value
  | .datetime t => .datetime t.reread
  | .member m =>
    match type with
    | .choice (.labels _) => .text m.value
    | _ => .member m
  | value => value

end ColumnType

/-- Whether a column takes a value as it is, and its canonical text for what that stands for. -/
structure ColumnType.Keeps (type : ColumnType) (value : Value) : Prop where
  typed : type.coerce? value = some value
  text : type.coerce? (.text value.canonicalText) = some (type.reread value)

namespace ColumnType

theorem integer_keeps {n : Int} (short : digitCount n.natAbs ≤ Crash.digitLimit) :
    integer.Keeps (.int n) := by
  have bearable : digitCount n.natAbs ≤ 1000000000000000000 :=
    Nat.le_trans short (by decide)
  obtain ⟨d, read, whole⟩ := readNumber_toString bearable
  have text : (Value.int n).canonicalText = toString n := rfl
  refine ⟨rfl, ?_⟩
  simp only [text, coerce?, Value.toInt?_text, read, whole]
  rfl

theorem exists_decimal {v c : Value} (h : v.toNumber? true = some c) :
    ∃ d : Decimal, d.inRange = true ∧ c = .decimal d := by
  unfold Value.toNumber? at h
  split at h
  · cases h
  · split at h
    · rename_i d read
      cases h
      exact ⟨d, inRange_of_readNumber read, rfl⟩
    · cases h

theorem numeric_keeps {places : Nat} {d : Decimal} (inRange : d.inRange = true) :
    (numeric places true).Keeps (.decimal d) := by
  have read := readNumber_text inRange
  have shown : (Value.decimal d).toText = d.text := rfl
  constructor
  · simp [coerce?, Value.toNumber?, shown, read]
  · have text : (Value.decimal d).canonicalText = d.text := rfl
    simp [coerce?, Value.toNumber?_text, text, read, reread]

theorem boolean_keeps (b : Bool) : boolean.Keeps (.bool b) := by
  have read : (Value.text (Value.bool b).canonicalText).toBool? = some b := by
    cases b <;> decide +kernel
  exact ⟨rfl, by rw [coerce?, read]; rfl⟩

theorem uuid_keeps (id : Uuid) : uuid.Keeps (.uuid id) := by
  have text : (Value.uuid id).canonicalText = id.text := rfl
  exact ⟨rfl, by simp [coerce?, text, Value.toUuid?_text, id.trimmed_text, id.read?_text, reread]⟩

theorem date_keeps (d : Date) : date.Keeps (.date d) := by
  have text : (Value.date d).canonicalText = d.text := rfl
  refine ⟨rfl, ?_⟩
  simp [coerce?, text, Value.toDate?_text, d.trimmed_text, d.isDateShaped_text, d.read_text,
    reread, Except.toOption]

/-- A column that keeps offsets has none of its own to add. -/
theorem datetime_keeps {zoned : Bool} {t : Timestamp}
    (complete : zoned = true → t.offset.isSome = true) :
    (datetime zoned).Keeps (.datetime t) := by
  have text : (Value.datetime t).canonicalText = t.isoText := rfl
  cases zoned with
  | false =>
    refine ⟨rfl, ?_⟩
    simp [coerce?, text, Value.toTimestamp?_text, t.trimmed_isoText, t.read?_isoText, reread]
  | true =>
    have typed : t.orUniversal = t := Timestamp.orUniversal_eq_self (complete rfl)
    have read : t.reread.orUniversal = t.reread := by
      refine Timestamp.orUniversal_eq_self ?_
      rw [Timestamp.reread, Option.isSome_map]
      exact complete rfl
    constructor
    · simp [coerce?, Value.toTimestamp?, typed]
    · simp [coerce?, text, Value.toTimestamp?_text, t.trimmed_isoText, t.read?_isoText, read,
        reread]

/-- A choice is kept: a member as it is, a label and a member that stands for one as the label. -/
theorem choice_keeps {choices : Choices} {v c : Value} (h : choices.accept? v = some c) :
    (choice choices).Keeps c := by
  unfold Choices.accept? at h
  split at h
  · cases h
  · rename_i chosen text_of_choice
    split at h
    · rename_i texts
      split at h
      · rename_i known
        cases h
        cases v <;> cases text_of_choice
        · exact ⟨if_pos known, if_pos known⟩
        · exact ⟨if_pos known, if_pos known⟩
      · cases h
    · rename_i all byName
      obtain ⟨m, found, rfl⟩ := Option.map_eq_some_iff.1 h
      have same : m.value = chosen := by simpa using List.find?_some found
      have again : (memberOf? all m.value).map Value.member = some (.member m) := by
        rw [same, found]
        rfl
      exact ⟨again, again⟩

theorem text_keeps (s : String) : text.Keeps (.text s) := ⟨rfl, rfl⟩

/-- A column keeps what it has accepted. -/
theorem keeps_of_coerce? {type : ColumnType} {v c : Value} (typed : type.hasCanonicalTexts = true)
    (short : ∀ n : Int, c = .int n → digitCount n.natAbs ≤ Crash.digitLimit)
    (h : type.coerce? v = some c) : type.Keeps c := by
  cases type with
  | integer =>
    obtain ⟨n, -, rfl⟩ := Option.map_eq_some_iff.1 h
    exact integer_keeps (short n rfl)
  | numeric places exact =>
    obtain rfl : exact = true := typed
    obtain ⟨d, inRange, rfl⟩ := exists_decimal h
    exact numeric_keeps inRange
  | boolean =>
    obtain ⟨b, -, rfl⟩ := Option.map_eq_some_iff.1 h
    exact boolean_keeps b
  | uuid =>
    obtain ⟨id, -, rfl⟩ := Option.map_eq_some_iff.1 h
    exact uuid_keeps id
  | date =>
    obtain ⟨d, -, rfl⟩ := Option.map_eq_some_iff.1 h
    exact date_keeps d
  | datetime zoned =>
    obtain ⟨t, ht, rfl⟩ := Option.map_eq_some_iff.1 h
    refine datetime_keeps fun keeps => ?_
    subst keeps
    obtain ⟨bare, -, rfl⟩ := Option.map_eq_some_iff.1 ht
    cases hb : bare.offset <;> simp [Timestamp.orUniversal, hb]
  | choice choices => exact choice_keeps h
  | text =>
    cases h
    exact text_keeps _
  | json => cases typed
  | binary => cases typed

end ColumnType

/-! ## Columns -/

/-- A value that a column has accepted is accepted again, and so is its canonical text. Whole
numbers are to be short enough to be written at all. -/
theorem coerce_canonicalText {column : Column} {path : String} {v c : Value}
    (typed : column.type.hasCanonicalTexts = true) (accepted : column.coerce path v = .ok c)
    (short : ∀ n : Int, c = .int n → digitCount n.natAbs ≤ Crash.digitLimit) :
    column.coerce path c = .ok c ∧
      column.coerce path (.text c.canonicalText) = .ok (column.type.reread c) := by
  have coerced : column.type.coerce? v = some c := by
    unfold Column.coerce at accepted
    split at accepted
    · rename_i found
      cases accepted
      exact found
    · cases accepted
  have kept := ColumnType.keeps_of_coerce? typed short coerced
  simp only [Column.coerce, kept.typed, kept.text, and_self]

/-- A column of points in time that come with or without an offset. -/
def stampedColumn : Column := .plain "stamped" (.datetime false)

/-- Noon of a day, by a clock that is ahead of universal time by that many microseconds. -/
def noonAhead (micros : Int) (valid : -86400000000 < micros ∧ micros < 86400000000) : Timestamp :=
  ⟨⟨2024, 1, 15, by decide⟩, ⟨12, 0, 0, 0, by decide⟩, some ⟨micros, valid⟩⟩

theorem coerce_canonicalText_noon :
    stampedColumn.type.hasCanonicalTexts = true ∧
      stampedColumn.coerce "stamped" (.text " 20240115 12+0530 ") =
        .ok (.datetime (noonAhead 19800000000 (by decide))) ∧
      (∀ n : Int, Value.datetime (noonAhead 19800000000 (by decide)) = .int n →
        digitCount n.natAbs ≤ Crash.digitLimit) ∧
      stampedColumn.coerce "stamped" (.text "2024-01-15T12:00:00+05:30") =
        .ok (.datetime (noonAhead 19800000000 (by decide))) := by
  have read : (Value.text " 20240115 12+0530 ").toTimestamp? false =
      some (noonAhead 19800000000 (by decide)) := by
    decide +kernel
  have accepted : stampedColumn.coerce "stamped" (.text " 20240115 12+0530 ") =
      .ok (.datetime (noonAhead 19800000000 (by decide))) := by
    simp [Column.coerce, stampedColumn, Column.plain, ColumnType.coerce?, read]
  have short : ∀ n : Int, Value.datetime (noonAhead 19800000000 (by decide)) = .int n →
      digitCount n.natAbs ≤ Crash.digitLimit :=
    fun n same => nomatch same
  exact ⟨rfl, accepted, short, (coerce_canonicalText rfl accepted short).2⟩

/-- An offset of half a millisecond is lost in the text of a point in time. -/
theorem short_offset_lost :
    stampedColumn.coerce "stamped" (.datetime (noonAhead 500 (by decide))) =
        .ok (.datetime (noonAhead 500 (by decide))) ∧
      stampedColumn.coerce "stamped" (.text (noonAhead 500 (by decide)).isoText) ≠
        .ok (.datetime (noonAhead 500 (by decide))) := by
  have read : (Value.text (noonAhead 500 (by decide)).isoText).toTimestamp? false =
      some (noonAhead 0 (by decide)) := by
    decide +kernel
  have other : noonAhead 0 (by decide) ≠ noonAhead 500 (by decide) := by decide
  refine ⟨rfl, ?_⟩
  simp [Column.coerce, stampedColumn, Column.plain, ColumnType.coerce?, read, other]

end RecordListing
