import RecordListing.Store.Matching
import RecordListing.Proofs.Store.StoredTimes

/-!
# Values of a column

A value that is coerced to the type of a column is one that the column can compare with: a number
that is read is a number, a choice is a text. So the column never compares with nothing
(`taken_present`).
-/

set_option autoImplicit false

namespace RecordListing

theorem Binary64.ofRatio_ne_nan (negative : Bool) (num den : Nat) :
    ofRatio negative num den ≠ .nan := by
  unfold ofRatio zero
  dsimp only
  repeat' split
  all_goals simp

theorem Binary64.ofDecimal_ne_nan (d : Decimal) : ofDecimal d ≠ .nan := by
  unfold ofDecimal zero
  dsimp only
  repeat' split
  all_goals simp [ofRatio_ne_nan]

theorem Cell.isNull_ofReal {x : Binary64} (h : x ≠ .nan) : (ofReal x).isNull = false := by
  cases x with
  | nan => exact absurd rfl h
  | _ =>
    unfold ofReal
    dsimp only
    repeat' split
    all_goals rfl

theorem boundCell_eq {type : ColumnType} {value : Value} {cell : Cell}
    (fits : type.fittingCell? value = some cell) : boundCell type value = cell := by
  rw [boundCell, ColumnType.rawCell, fits]
  rfl

/-- A number that is read has a cell, and not an empty one. -/
theorem ColumnType.fittingCell?_number {places : Nat} {exact : Bool} {value number : Value}
    (h : value.toNumber? exact = some number) :
    ∃ x, x ≠ .nan ∧ (numeric places exact).fittingCell? number = some (.real x) := by
  obtain ⟨d, rfl⟩ : ∃ d, number = if exact then .decimal d else .float (.ofDecimal d) := by
    unfold Value.toNumber? at h
    split at h
    · cases h
    · split at h
      · rename_i d _
        exact ⟨d, (Option.some.inj h).symm⟩
      · cases h
  have some_number := Binary64.ofDecimal_ne_nan d
  refine ⟨.ofDecimal d, some_number, ?_⟩
  cases exact with
  | true => rfl
  | false => simp [fittingCell?, Value.toRealCell?, some_number]

/-- What is read as a choice is a text or a member. -/
theorem Choices.fittingCell?_accept {choices : Choices} {value choice : Value}
    (h : choices.accept? value = some choice) :
    ∃ text, (ColumnType.choice choices).fittingCell? choice = some (.text text) := by
  unfold accept? at h
  cases chosen : value.choiceText? with
  | none => simp [chosen] at h
  | some text =>
    simp only [chosen] at h
    cases choices with
    | labels texts =>
      obtain ⟨-, rfl⟩ : texts.contains text = true ∧ value = choice := by simpa using h
      cases value <;> first | exact ⟨_, rfl⟩ | cases chosen
    | members all byName =>
      obtain ⟨m, -, rfl⟩ := Option.map_eq_some_iff.1 h
      exact ⟨_, rfl⟩

/-- A column that does not take values as they come compares with something, never with nothing. -/
theorem taken_present {type : ColumnType} {value coerced : Value}
    (known : type.kind ≠ .json ∧ type.kind ≠ .other) (h : type.coerce? value = some coerced) :
    (type.take (boundCell type coerced)).isNull = false := by
  suffices fits : ∃ cell, type.fittingCell? coerced = some cell ∧
      (type.take cell).isNull = false by
    obtain ⟨cell, fits, present⟩ := fits
    rwa [boundCell_eq fits]
  cases type with
  | json => exact absurd rfl known.1
  | binary => exact absurd rfl known.2
  | text =>
    obtain rfl := Option.some.inj h
    exact ⟨_, rfl, rfl⟩
  | integer =>
    obtain ⟨n, -, rfl⟩ := Option.map_eq_some_iff.1 h
    exact ⟨_, rfl, rfl⟩
  | boolean =>
    obtain ⟨b, -, rfl⟩ := Option.map_eq_some_iff.1 h
    exact ⟨_, rfl, rfl⟩
  | uuid =>
    obtain ⟨id, -, rfl⟩ := Option.map_eq_some_iff.1 h
    exact ⟨_, rfl, rfl⟩
  | date =>
    obtain ⟨d, -, rfl⟩ := Option.map_eq_some_iff.1 h
    exact ⟨_, rfl, congrArg Cell.isNull (take_date d)⟩
  | datetime zoned =>
    obtain ⟨t, -, rfl⟩ := Option.map_eq_some_iff.1 h
    exact ⟨_, rfl, congrArg Cell.isNull (take_wall t)⟩
  | numeric places exact =>
    obtain ⟨x, some_number, fits⟩ := ColumnType.fittingCell?_number h
    exact ⟨_, fits, Cell.isNull_ofReal some_number⟩
  | choice choices =>
    obtain ⟨text, fits⟩ := Choices.fittingCell?_accept h
    exact ⟨_, fits, rfl⟩

end RecordListing
