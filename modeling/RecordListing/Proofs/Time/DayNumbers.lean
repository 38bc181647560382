import Mathlib.Tactic.SplitIfs
import Mathlib.Tactic.ByContra
import RecordListing.Proofs.Time.Calendar
import RecordListing.Time.Timestamp

/-!
# Days by their numbers

Every number from 1 to that of the last day of the calendar is the number of a day, and the day is
found by it (`exists_ofDayNumber?`). So every microsecond of the calendar is a point in time
(`exists_ofEpochMicros?`).
-/

set_option autoImplicit false

namespace RecordListing

namespace Date

/-- The year of a number begins before it, and the next one does not. -/
theorem yearOf_bounds {number : Nat} (h : 1 ≤ number) :
    1 ≤ yearOf number ∧ daysBeforeYear (yearOf number) < number ∧
      number ≤ daysBeforeYear (yearOf number + 1) := by
  have near : daysBeforeYear ((number - 1) * 400 / 146097) < number ∧
      number ≤ daysBeforeYear ((number - 1) * 400 / 146097 + 3) := by
    simp only [daysBeforeYear]
    omega
  unfold yearOf
  generalize (number - 1) * 400 / 146097 = mean at near
  have first : daysBeforeYear 1 = 0 := by decide
  dsimp only
  split_ifs with later here
  · exact ⟨by omega, later, near.2⟩
  · exact ⟨by omega, here, by omega⟩
  · rw [Nat.add_sub_cancel]
    refine ⟨?_, near.1, by omega⟩
    rcases Nat.eq_zero_or_pos mean with rfl | positive
    · rw [Nat.zero_add] at here
      omega
    · exact positive

/-- A day that lies in the months of the year from one on is a day of one of these. -/
theorem monthOf_spec (year left month day : Nat) (months : left + month = 12)
    (some_month : 1 ≤ month) (some_day : 1 ≤ day)
    (within : daysBeforeMonth year month + day ≤ daysInYear year) :
    ∃ m d, monthOf year left month day = (m, d) ∧ 1 ≤ m ∧ m ≤ 12 ∧ 1 ≤ d ∧ d ≤ daysIn year m ∧
      daysBeforeMonth year m + d = daysBeforeMonth year month + day := by
  induction left generalizing month day with
  | zero =>
    obtain rfl : month = 12 := by omega
    have all := daysBeforeMonth_succ year (show 1 ≤ 12 by decide)
    rw [daysBeforeMonth_all] at all
    exact ⟨12, day, rfl, by decide, by decide, some_day, by omega, rfl⟩
  | succ left ih =>
    have next := daysBeforeMonth_succ year some_month
    rw [monthOf]
    split_ifs with here
    · exact ⟨month, day, rfl, some_month, by omega, some_day, here, rfl⟩
    · obtain ⟨m, d, found, first, last, some_d, in_month, same⟩ :=
        ih (month + 1) (day - daysIn year month) (by omega) (by omega) (by omega) (by omega)
      exact ⟨m, d, found, first, last, some_d, in_month, by omega⟩

/-- The day with a number is found by it. -/
theorem exists_ofDayNumber? (number : Nat) (h : 1 ≤ number) (h' : number ≤ last.dayNumber) :
    ∃ date, ofDayNumber? number = some date ∧ date.dayNumber = number := by
  obtain ⟨some_year, begun, ended⟩ := yearOf_bounds h
  have year : yearOf number ≤ 9999 := by
    by_contra later
    have end_ : daysBeforeYear 10000 = last.dayNumber := by decide
    have := daysBeforeYear_mono (show 10000 ≤ yearOf number by omega) (by decide)
    omega
  rw [daysBeforeYear_succ some_year] at ended
  have none_before : daysBeforeMonth (yearOf number) 1 = 0 := rfl
  obtain ⟨m, d, found, first, last, some_day, in_month, same⟩ :=
    monthOf_spec (yearOf number) 11 1 (number - daysBeforeYear (yearOf number)) rfl (by decide)
      (by omega) (by omega)
  have valid : IsDate (yearOf number) m d := ⟨some_year, year, first, last, some_day, in_month⟩
  refine ⟨⟨yearOf number, m, d, valid⟩, ?_, ?_⟩
  · simp only [ofDayNumber?, found, if_neg (show number ≠ 0 by omega), ofParts?, dif_pos valid]
  · simp only [dayNumber]
    omega

end Date

/-- Every microsecond from the first to the last of the calendar is a point in time. -/
theorem Timestamp.exists_ofEpochMicros? {micros : Int} (h : -62135596800000000 ≤ micros)
    (h' : micros < 253402300800000000) : ∃ time, ofEpochMicros? micros = some time := by
  have last : Date.last.dayNumber = 3652059 := by decide
  obtain ⟨date, found, -⟩ :=
    Date.exists_ofDayNumber? (719163 + micros / 86400000000).toNat (by omega) (by omega)
  exact ⟨_, by rw [ofEpochMicros?, found, Option.map_some]⟩

end RecordListing
