import RecordListing.Proofs.Query.Bounds
import RecordListing.Proofs.Query.RefusedTexts
import RecordListing.Proofs.Store.DayOrder
import RecordListing.Proofs.Store.Truth

/-!
# Calendar days

Two ways of asking a column of points in time for days agree: a range of whole days, which compares
the day of the column, and equality with a day, which asks for the stretch from its first instant to
that of the next one. Both accept what is stored for a point in time by its day alone
(`whole_days_agree`).
-/

set_option autoImplicit false

namespace RecordListing

open Outcome Text

/-! ## Texts that name days -/

/-- Whether a text in the form of a date names the day. -/
structure DayText (s : String) (d : Date) : Prop where
  only : isDateOnly s = true
  read : readDay s = .ok d

/-- The text of a day names it. -/
theorem dayText_text (d : Date) : DayText d.text d := by
  constructor
  · rw [isDateOnly, d.trimmed_text]
    exact d.isDateShaped_text
  · rw [readDay, d.trimmed_text, d.read_text]

/-! ## What is compiled -/

section
variable {plan : JoinPlan} {space path : String} {field : Field} {column : ColumnRef}
    {zoned : Bool}

/-- A whole day is bounded by the first instants of the day and of the next one. -/
theorem dayBounds_eq {s : String} {day next : Date} (read : readDay s = .ok day)
    (after : day.next? = some next) (zoned : Bool) :
    ∃ start stop, dayBounds zoned s = .ok (start, stop) ∧
      start.wallText = (Timestamp.startOf day).wallText ∧
      stop.wallText = (Timestamp.startOf next).wallText := by
  unfold dayBounds
  rw [read]
  dsimp only
  rw [after]
  cases zoned <;> exact ⟨_, _, rfl, rfl, rfl⟩

variable (space) in
theorem compileFilters_dayRange {low high : String} {first last : Date} {terms : List FilterTerm}
    (found : plan.resolve path = .ok (field, column)) (bounds : AreBounds path low high terms)
    (hlow : DayText low first) (hhigh : DayText high last) :
    ∃ lowName highName, compileFilters plan space terms =
      .ok [.test (.dayBetween column ⟨lowName, .date first, .date⟩
        ⟨highName, .date last, .date⟩)] := by
  have days : ((Value.text low).isDateOnly && (Value.text high).isDateOnly) = true :=
    Bool.and_eq_true_iff.2 ⟨hlow.only, hhigh.only⟩
  have given : (low.isEmpty || high.isEmpty) = false := by
    cases blank : low.isEmpty || high.isEmpty with
    | false => rfl
    | true =>
      rw [not_days_of_empty blank] at days
      cases days
  have first_day : readDay (Value.text low).dayText = .ok first := hlow.read
  have last_day : readDay (Value.text high).dayText = .ok last := hhigh.read
  rw [bounds.compileFilters_range given, compileRange_eq, found]
  dsimp only
  rw [if_pos days, first_day, last_day]
  exact ⟨_, _, rfl⟩

variable (space) in
theorem compileFilters_day {s : String} {day next : Date}
    (found : plan.resolve path = .ok (field, column)) (type : field.column.type = .datetime zoned)
    (hs : DayText s day) (after : day.next? = some next) :
    ∃ lowName highName start stop, compileFilters plan space [⟨path, .eq, .text s⟩] =
        .ok [.both (.test (.compare column .gte ⟨lowName, .datetime start, .datetime zoned⟩))
          (.test (.compare column .lt ⟨highName, .datetime stop, .datetime zoned⟩))] ∧
      start.wallText = (Timestamp.startOf day).wallText ∧
      stop.wallText = (Timestamp.startOf next).wallText := by
  have whole : (Value.text s).isDateOnly = true := hs.only
  have asks : FilterTerm.isSkipped ⟨path, .eq, .text s⟩ = false := by
    have filled : s ≠ "" := by
      rintro rfl
      exact absurd whole (by decide)
    simp [FilterTerm.isSkipped, Value.isBlank, Value.isNull, Value.isEmptyText, Value.length?,
      filled]
  obtain ⟨start, stop, bounds, hstart, hstop⟩ := dayBounds_eq hs.read after zoned
  have zone : field.column.type.zoned? = some zoned := by rw [type]; rfl
  have op : Operator.eq ∈ [.eq, .ne] := by decide
  have term : compileTerm plan space 0 ⟨path, .eq, .text s⟩ = _ :=
    compileTerm_equality found op rfl
  rw [compileFilters_single, term, compileEquality_day op whole zone asks]
  simp only [compileEquality.wholeDay, Value.dayText, bounds, ok_bind, type]
  exact ⟨_, _, start, stop, rfl, hstart, hstop⟩

/-! ## What is accepted -/

theorem dayBetween_stored {joined : JoinedRow} {t : Timestamp}
    (stored : joined.cell column = .text t.wallText) (first last : Date)
    (lowName highName : String) :
    (Condition.test (.dayBetween column ⟨lowName, .date first, .date⟩
        ⟨highName, .date last, .date⟩)).truth joined = .yes ↔
      first.dayNumber ≤ t.date.dayNumber ∧ t.date.dayNumber ≤ last.dayNumber := by
  have cell (name : String) (d : Date) : Bind.cell ⟨name, .date d, .date⟩ = .text d.text := rfl
  have test (wanted : Ordering → Bool) (d : Date) :
      Cell.test wanted (.text t.date.text) (.text d.text) = .yes ↔
        wanted (compare t.date.dayNumber d.dayNumber) = true := by
    rw [← compare_date]
    exact Truth.ofBool_eq_yes
  simp only [Condition.truth, Test.truth, betweenCells_eq_yes, stored, day_wall, cell, test,
    Comparison.wants]
  simp [Nat.compare_eq_lt, Nat.compare_eq_gt]

theorem interval_stored {joined : JoinedRow} {t start stop : Timestamp} {day next : Date}
    (type : column.column.type = .datetime zoned)
    (stored : joined.cell column = .text t.wallText)
    (hstart : start.wallText = (Timestamp.startOf day).wallText)
    (hstop : stop.wallText = (Timestamp.startOf next).wallText) (lowName highName : String) :
    (Condition.both (.test (.compare column .gte ⟨lowName, .datetime start, .datetime zoned⟩))
        (.test (.compare column .lt ⟨highName, .datetime stop, .datetime zoned⟩))).truth joined =
        .yes ↔
      day.dayNumber ≤ t.date.dayNumber ∧ t.date.dayNumber < next.dayNumber := by
  have taken (name : String) (u : Timestamp) :
      column.take (Bind.cell ⟨name, .datetime u, .datetime zoned⟩) = .text u.wallText := by
    rw [ColumnRef.take, type]
    exact take_wall u
  have test (wanted : Ordering → Bool) (u : Timestamp) :
      Cell.test wanted (.text t.wallText) (.text u.wallText) = .yes ↔
        wanted (Cell.compare (.text t.wallText) (.text u.wallText)) = true := Truth.ofBool_eq_yes
  simp only [Condition.truth, Test.truth, Condition.and_eq_yes, stored, taken, test,
    Comparison.wants, hstart, hstop]
  simp [wall_lt_startOf_iff]

end

/-- Whether a joined row holds in a column what the column stores for a point in time. -/
def JoinedRow.Holds (joined : JoinedRow) (column : ColumnRef) (t : Timestamp) : Prop :=
  column.column.type.cell? (.datetime t) = some (joined.cell column)

/-- Whether three conditions on a column accept points in time by their day alone: the first from a
day to another one, the others on the first of these days. Of nothing none is true. -/
structure AcceptDays (column : ColumnRef) (first last : Date) (inRange inSingle onDay : Condition) :
    Prop where
  range : ∀ joined t, joined.Holds column t →
    (inRange.truth joined = .yes ↔
      first.dayNumber ≤ t.date.dayNumber ∧ t.date.dayNumber ≤ last.dayNumber)
  day : ∀ joined t, joined.Holds column t → (onDay.truth joined = .yes ↔ t.date = first)
  same : ∀ joined t, joined.Holds column t →
    (onDay.truth joined = .yes ↔ inSingle.truth joined = .yes)
  null : ∀ joined, joined.cell column = .null →
    ∀ condition ∈ [inRange, inSingle, onDay], condition.truth joined ≠ .yes

/-- A range of whole days accepts the points in time of those days, and equality with a day accepts
what the range of that one day does. -/
theorem whole_days_agree {plan : JoinPlan} {space path : String} {field : Field}
    {column : ColumnRef} {zoned : Bool} {low high : String} {first last : Date}
    {range single : List FilterTerm} (found : plan.resolve path = .ok (field, column))
    (type : field.column.type = .datetime zoned) (hlow : DayText low first)
    (hhigh : DayText high last) (inside : first ≠ Date.last)
    (range_bounds : AreBounds path low high range)
    (single_bounds : AreBounds path low low single) :
    ∃ inRange inSingle onDay, compileFilters plan space range = .ok [inRange] ∧
      compileFilters plan space single = .ok [inSingle] ∧
      compileFilters plan space [⟨path, .eq, .text low⟩] = .ok [onDay] ∧
      AcceptDays column first last inRange inSingle onDay := by
  obtain ⟨next, after⟩ := Date.exists_next inside
  have number := Date.dayNumber_next after
  obtain ⟨_, _, compiled⟩ := compileFilters_dayRange space found range_bounds hlow hhigh
  obtain ⟨_, _, compiled'⟩ := compileFilters_dayRange space found single_bounds hlow hlow
  obtain ⟨_, _, start, stop, compiled_day, hstart, hstop⟩ :=
    compileFilters_day space found type hlow after
  refine ⟨_, _, _, compiled, compiled', compiled_day, ?_⟩
  have own : column.column.type = .datetime zoned := by
    obtain ⟨-, rfl⟩ := JoinPlan.resolve_eq_ok found
    exact type
  have wall {joined : JoinedRow} {t : Timestamp} (stored : joined.Holds column t) :
      joined.cell column = .text t.wallText := by
    rw [JoinedRow.Holds, own] at stored
    exact (Option.some.inj stored).symm.trans (take_wall t)
  have on_day {t : Timestamp} : first.dayNumber ≤ t.date.dayNumber ∧
      t.date.dayNumber < next.dayNumber ↔ t.date = first := by
    constructor
    · intro within
      exact Date.dayNumber_injective (by omega)
    · rintro rfl
      omega
  refine ⟨fun joined t stored => ?_, fun joined t stored => ?_, fun joined t stored => ?_,
    fun joined null => ?_⟩
  · exact dayBetween_stored (wall stored) _ _ _ _
  · exact (interval_stored own (wall stored) hstart hstop _ _).trans on_day
  · rw [interval_stored own (wall stored) hstart hstop, dayBetween_stored (wall stored), on_day]
    constructor
    · rintro rfl
      exact ⟨Nat.le_refl _, Nat.le_refl _⟩
    · rintro ⟨le, ge⟩
      exact Date.dayNumber_injective (Nat.le_antisymm ge le)
  · have none_true (wanted : Ordering → Bool) (other : Cell) :
        Cell.test wanted .null other ≠ .yes := test_null wanted other
    have none_between (low high : Cell) : betweenCells low high Cell.null.day ≠ .yes :=
      fun h => none_true _ _ (betweenCells_eq_yes.1 h).1
    simp [Condition.truth, Test.truth, null, none_between, Condition.and_eq_yes, none_true]

namespace Sample

def leapDay : Date := ⟨2024, 2, 29, by decide⟩

def firstOfMarch : Date := ⟨2024, 3, 1, by decide⟩

end Sample

theorem whole_days_agree_leap_day :
    let low := Sample.leapDay.text
    let high := Sample.firstOfMarch.text
    let range : List FilterTerm :=
      [⟨"stamped", .gte, .text low⟩, ⟨"stamped", .lte, .text high⟩]
    let single : List FilterTerm :=
      [⟨"stamped", .lte, .text low⟩, ⟨"stamped", .gte, .text low⟩]
    ∃ target, Sample.widgets.resolve "stamped" = .ok target ∧
      target.1.column.type = .datetime false ∧ DayText low Sample.leapDay ∧
      DayText high Sample.firstOfMarch ∧ Sample.leapDay ≠ Date.last ∧
      AreBounds "stamped" low high range ∧ AreBounds "stamped" low low single ∧
      ∃ inRange inSingle onDay, compileFilters Sample.widgets "" range = .ok [inRange] ∧
        compileFilters Sample.widgets "" single = .ok [inSingle] ∧
        compileFilters Sample.widgets "" [⟨"stamped", .eq, .text low⟩] = .ok [onDay] ∧
        AcceptDays target.2 Sample.leapDay Sample.firstOfMarch inRange inSingle onDay := by
  intro low high range single
  have inside : Sample.leapDay ≠ Date.last := by decide
  refine ⟨_, rfl, rfl, dayText_text _, dayText_text _, inside, .inl rfl, .inr rfl, ?_⟩
  exact whole_days_agree rfl rfl (dayText_text _) (dayText_text _) inside (.inl rfl) (.inr rfl)

end RecordListing
