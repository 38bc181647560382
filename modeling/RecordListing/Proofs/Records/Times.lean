import RecordListing.Proofs.Records.Keys
import RecordListing.Proofs.Store.StoredTimes

/-!
# Times stay stored as such

A column of days or of points in time stores a value as its day or wall clock, whatever the value
was given as (`stores_of_givenCell`). So the rows of an entity that are inserted keep the form that
stored days and times have (`insertNew_storesTimes`).
-/

set_option autoImplicit false

namespace RecordListing

open Outcome

/-! ## Cells -/

/-- What a value is stored as before its column takes it, in a column of days. -/
theorem fittingCell?_date {value : Value} {cell : Cell}
    (h : ColumnType.date.fittingCell? value = some cell) :
    cell = .null ∨ ∃ d : Date, cell = .text d.text := by
  cases value <;> simp only [ColumnType.fittingCell?, Option.some.injEq, reduceCtorEq] at h
  · exact .inl h.symm
  · exact .inr ⟨_, h.symm⟩
  · exact .inr ⟨_, h.symm⟩

theorem fittingCell?_datetime {zoned : Bool} {value : Value} {cell : Cell}
    (h : (ColumnType.datetime zoned).fittingCell? value = some cell) :
    cell = .null ∨ ∃ t : Timestamp, cell = .text t.wallText := by
  cases value <;> simp only [ColumnType.fittingCell?, Option.some.injEq, reduceCtorEq] at h
  · exact .inl h.symm
  · exact .inr ⟨_, h.symm⟩

theorem ColumnType.stores_of_cell? {type : ColumnType} {value : Value} {cell : Cell}
    (h : type.cell? value = some cell) : type.Stores cell := by
  obtain ⟨fitting, hf, rfl⟩ := Option.map_eq_some_iff.1 h
  cases type with
  | date =>
    rcases fittingCell?_date hf with rfl | ⟨d, rfl⟩
    · exact .inl rfl
    · exact .inr ⟨d, take_date d⟩
  | datetime zoned =>
    rcases fittingCell?_datetime hf with rfl | ⟨t, rfl⟩
    · exact .inl rfl
    · exact .inr ⟨t, take_wall t⟩
  | _ => trivial

theorem stores_of_givenCell {column : Column} {value : Value} {cell : Cell}
    (h : givenCell column value = .ok cell) : column.type.Stores cell := by
  have coerced {type : ColumnType} (h : (type.coerce? value).bind type.cell? = some cell) :
      type.Stores cell := by
    obtain ⟨value, -, hc⟩ := Option.bind_eq_some_iff.1 h
    exact type.stores_of_cell? hc
  unfold givenCell at h
  dsimp only at h
  split at h
  · rename_i read
    cases h
    split at read
    case h_1 =>
      cases read
      exact column.type.stores_null
    -- these hold whatever they are given
    case h_2 type | h_3 type =>
      rw [type]
      trivial
    case h_4 type _ | h_5 type _ | h_6 type _ =>
      rw [type]
      trivial
    case h_7 => exact coerced read
  · cases h

theorem stores_of_newCell {now : Timestamp} {rows : List Row} {column : Column}
    (initial : column.type.Stores (initialCell now rows column)) {given : Option Value}
    {cell : Cell} (h : newCell now rows column given = .ok cell) : column.type.Stores cell := by
  unfold newCell at h
  split at h
  · cases h
    exact initial
  · cases h
    split
    · exact initial
    · exact column.type.stores_null
  · exact stores_of_givenCell h

/-! ## Rows -/

/-- Whether an entity stores its columns apart, and columns of days and of points in time hold in
new rows what such columns store. -/
structure Entity.KeepsTimes (entity : Entity) : Prop where
  apart : (entity.columns.map (·.physical)).Nodup
  initial : ∀ now rows, ∀ column ∈ entity.columns,
    column.type.Stores (initialCell now rows column)

/-- A new row has a cell for each column, made for what is given for it. -/
theorem newRow_cell {now : Timestamp} {rows : List Row} {columns : List Column}
    {given : Column → Option Value} {row : Row}
    (h : (columns.mapM fun column => do
      return (column.physical, ← newCell now rows column (given column)) : Outcome Row) = .ok row)
    (apart : (columns.map (·.physical)).Nodup) {column : Column} (hm : column ∈ columns) :
    newCell now rows column (given column) = .ok (row.cell column.physical) := by
  induction columns generalizing row with
  | nil => cases hm
  | cons first columns ih =>
    obtain ⟨fresh, apart⟩ := List.nodup_cons.1 apart
    simp only [List.mapM_cons, bind_eq_ok_iff, pure_eq] at h
    obtain ⟨entry, ⟨cell, hc, he⟩, rest, hr, h⟩ := h
    cases he
    cases h
    rcases List.mem_cons.1 hm with rfl | hm
    · simpa [Row.cell] using hc
    · have other : column.physical ≠ first.physical := by
        intro he
        exact fresh (List.mem_map.2 ⟨column, hm, he⟩)
      have same : Row.cell ((first.physical, cell) :: rest) column.physical =
          Row.cell rest column.physical := by
        simp only [Row.cell, lookup_cons_eq_ite, if_neg other]
      rw [same]
      exact ih hr apart hm

/-- A row that is inserted holds in columns of days and of points in time what they store. -/
theorem Database.insertNew_storesTimes {db next : Database} {now : Timestamp}
    {entity other : Entity} {values : List (String × Value)}
    (h : db.insertNew now entity values = .ok next) (keeps : entity.KeepsTimes)
    (apart : other = entity ∨ other.table ≠ entity.table)
    {column : Column} (hc : column ∈ other.columns) (stored : db.StoresTimes other column) :
    next.StoresTimes other column := by
  simp only [insertNew, bind_eq_ok_iff] at h
  obtain ⟨row, hr, h⟩ := h
  split at h
  · cases h
    intro found hf
    rw [insert, rows_withRows] at hf
    rcases apart with rfl | ne
    · rw [if_pos rfl] at hf
      rcases List.mem_append.1 hf with hf | hf
      · exact stored found hf
      · obtain rfl := List.mem_singleton.1 hf
        exact stores_of_newCell (keeps.initial _ _ column hc) (newRow_cell hr keeps.apart hc)
    · rw [if_neg ne] at hf
      exact stored found hf
  · cases h

end RecordListing
