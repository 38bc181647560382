import RecordListing.Time.Calendar

/-!
# Days in a row

Days are numbered in the order of year, month and day (`compare_dayNumber`) and without a gap: the
day after has the next number (`dayNumber_next`), and only the last day of the calendar has none
after it (`exists_next`).
-/

set_option autoImplicit false

namespace RecordListing

namespace Date

/-! ## Years and months -/

def daysInYear (year : Nat) : Nat := if isLeap year then 366 else 365

theorem daysBeforeYear_succ {year : Nat} (h : 1 ≤ year) :
    daysBeforeYear (year + 1) = daysBeforeYear year + daysInYear year := by
  obtain ⟨before, rfl⟩ := Nat.exists_eq_add_of_le' h
  have fewer : before / 100 ≤ before / 4 := Nat.div_le_div_left (by decide) (by decide)
  have hundredth (centuries : (before + 1) % 100 = 0) : (before + 1) % 4 = 0 := by omega
  have fourth (quarters : (before + 1) % 400 = 0) : (before + 1) % 100 = 0 := by omega
  simp only [daysBeforeYear, Nat.add_sub_cancel, Nat.succ_div, Nat.dvd_iff_mod_eq_zero,
    daysInYear, isLeap, Bool.and_eq_true, Bool.or_eq_true, bne_iff_ne, beq_iff_eq]
  generalize before / 4 = fours at *
  generalize before / 100 = hundreds at *
  by_cases quarter : (before + 1) % 4 = 0
  · by_cases century : (before + 1) % 100 = 0
    · by_cases era : (before + 1) % 400 = 0 <;> simp [quarter, century, era] <;> omega
    · simp [quarter, century, mt fourth century]
      omega
  · simp [quarter, mt hundredth quarter, mt fourth (mt hundredth quarter)]
    omega

theorem daysBeforeMonth_succ (year : Nat) {month : Nat} (h : 1 ≤ month) :
    daysBeforeMonth year (month + 1) = daysBeforeMonth year month + daysIn year month := by
  obtain ⟨before, rfl⟩ := Nat.exists_eq_add_of_le' h
  simp only [daysBeforeMonth, Nat.add_sub_cancel, List.range_succ, List.foldl_append,
    List.foldl_cons, List.foldl_nil]

theorem daysBeforeYear_mono {a b : Nat} (h : a ≤ b) (positive : 1 ≤ a) :
    daysBeforeYear a ≤ daysBeforeYear b := by
  induction h with
  | refl => exact Nat.le_refl _
  | step hb ih =>
    rw [daysBeforeYear_succ (Nat.le_trans positive hb)]
    exact Nat.le_add_right_of_le ih

theorem daysBeforeMonth_mono (year : Nat) {a b : Nat} (h : a ≤ b) (positive : 1 ≤ a) :
    daysBeforeMonth year a ≤ daysBeforeMonth year b := by
  induction h with
  | refl => exact Nat.le_refl _
  | step hb ih =>
    rw [daysBeforeMonth_succ year (Nat.le_trans positive hb)]
    exact Nat.le_add_right_of_le ih

theorem daysBeforeMonth_all (year : Nat) : daysBeforeMonth year 13 = daysInYear year := by
  unfold daysInYear
  cases leap : isLeap year <;> simp [daysBeforeMonth, List.range_succ, daysIn, leap]

/-! ## Order -/

section
variable {a b : Date}

theorem dayNumber_lt_of_day (years : a.year = b.year) (months : a.month = b.month)
    (h : a.day < b.day) : a.dayNumber < b.dayNumber := by
  simp only [dayNumber, years, months]
  omega

theorem dayNumber_lt_of_month (years : a.year = b.year) (h : a.month < b.month) :
    a.dayNumber < b.dayNumber := by
  obtain ⟨-, -, month, -, -, day⟩ := a.valid
  obtain ⟨-, -, -, -, day', -⟩ := b.valid
  have begun := daysBeforeMonth_mono b.year (show a.month + 1 ≤ b.month from h) (by omega)
  rw [daysBeforeMonth_succ b.year month] at begun
  simp only [dayNumber, years] at day ⊢
  omega

theorem dayNumber_lt_of_year (h : a.year < b.year) : a.dayNumber < b.dayNumber := by
  obtain ⟨year, -, month, month', -, day⟩ := a.valid
  obtain ⟨-, -, -, -, day', -⟩ := b.valid
  have begun := daysBeforeYear_mono (show a.year + 1 ≤ b.year from h) (by omega)
  have ended := daysBeforeMonth_mono a.year (show a.month + 1 ≤ 13 by omega) (by omega)
  rw [daysBeforeYear_succ year] at begun
  rw [daysBeforeMonth_succ a.year month, daysBeforeMonth_all] at ended
  simp only [dayNumber]
  omega

end

/-- Days are numbered by year, then month, then day. -/
theorem compare_dayNumber (a b : Date) :
    compare a.dayNumber b.dayNumber =
      (compare a.year b.year).then ((compare a.month b.month).then (compare a.day b.day)) := by
  rcases Nat.lt_trichotomy a.year b.year with h | years | h
  · rw [Nat.compare_eq_lt.2 (dayNumber_lt_of_year h), Nat.compare_eq_lt.2 h]
    rfl
  · rw [Nat.compare_eq_eq.2 years]
    rcases Nat.lt_trichotomy a.month b.month with h | months | h
    · rw [Nat.compare_eq_lt.2 (dayNumber_lt_of_month years h), Nat.compare_eq_lt.2 h]
      rfl
    · rw [Nat.compare_eq_eq.2 months]
      rcases Nat.lt_trichotomy a.day b.day with h | days | h
      · rw [Nat.compare_eq_lt.2 (dayNumber_lt_of_day years months h), Nat.compare_eq_lt.2 h]
        rfl
      · simp [dayNumber, years, months, days]
      · rw [Nat.compare_eq_gt.2 (dayNumber_lt_of_day years.symm months.symm h),
          Nat.compare_eq_gt.2 h]
        rfl
    · rw [Nat.compare_eq_gt.2 (dayNumber_lt_of_month years.symm h), Nat.compare_eq_gt.2 h]
      rfl
  · rw [Nat.compare_eq_gt.2 (dayNumber_lt_of_year h), Nat.compare_eq_gt.2 h]
    rfl

theorem dayNumber_injective {a b : Date} (h : a.dayNumber = b.dayNumber) : a = b := by
  have parts := compare_dayNumber a b
  rw [Nat.compare_eq_eq.2 h, eq_comm, Ordering.then_eq_eq, Ordering.then_eq_eq] at parts
  obtain ⟨years, months, days⟩ := parts
  rw [Nat.compare_eq_eq] at years months days
  obtain ⟨year, month, day, valid⟩ := a
  cases years
  cases months
  cases days
  rfl

/-! ## The day after -/

/-- The last day of the calendar. -/
def last : Date := ⟨9999, 12, 31, by decide⟩

theorem ofParts?_eq_some {year month day : Nat} {date : Date}
    (h : ofParts? year month day = some date) :
    date.year = year ∧ date.month = month ∧ date.day = day := by
  unfold ofParts? at h
  split at h
  · cases h
    exact ⟨rfl, rfl, rfl⟩
  · cases h

/-- The day after has the next number. -/
theorem dayNumber_next {date next : Date} (h : date.next? = some next) :
    next.dayNumber = date.dayNumber + 1 := by
  obtain ⟨year, -, month, month', -, day⟩ := date.valid
  unfold next? at h
  split at h
  · obtain ⟨years, months, days⟩ := ofParts?_eq_some h
    simp only [dayNumber, years, months, days]
    omega
  · split at h
    · obtain ⟨years, months, days⟩ := ofParts?_eq_some h
      simp only [dayNumber, years, months, days, daysBeforeMonth_succ date.year month]
      omega
    · -- the last day of the last month ends its year
      obtain ⟨years, months, days⟩ := ofParts?_eq_some h
      have begun : daysBeforeMonth (date.year + 1) 1 = 0 := rfl
      have ended := daysBeforeMonth_succ date.year month
      have full : date.day = daysIn date.year date.month := by omega
      have december : date.month = 12 := by omega
      simp only [dayNumber, years, months, days, daysBeforeYear_succ year, begun, full]
      rw [december] at ended ⊢
      rw [daysBeforeMonth_all] at ended
      omega

/-- Every day but the last one has a day after it. -/
theorem exists_next {date : Date} (h : date ≠ last) : ∃ next, date.next? = some next := by
  obtain ⟨year, year', month, month', day, day'⟩ := date.valid
  have named {y m d : Nat} (valid : IsDate y m d) : ∃ next, ofParts? y m d = some next :=
    ⟨⟨y, m, d, valid⟩, dif_pos valid⟩
  have some_day (y m : Nat) : 1 ≤ daysIn y m := by
    unfold daysIn
    split
    · split <;> decide
    · split <;> decide
  unfold next?
  split
  · exact named ⟨year, year', month, month', by omega, by omega⟩
  · split
    · exact named ⟨year, year', by omega, by omega, by omega, some_day _ _⟩
    · refine named ⟨by omega, ?_, by omega, by omega, by omega, some_day _ _⟩
      refine Nat.succ_le_of_lt (Nat.lt_of_le_of_ne year' fun years => h ?_)
      have months : date.month = 12 := by omega
      have days : date.day = daysIn date.year date.month := by omega
      have long : daysIn 9999 12 = 31 := rfl
      rw [years, months, long] at days
      exact dayNumber_injective (by simp only [dayNumber, last, years, months, days])

end Date

end RecordListing
