import Mathlib.Data.List.TakeWhile
import RecordListing.Store.Database
import RecordListing.Store.Day
import RecordListing.Proofs.Number.Literals
import RecordListing.Proofs.Time.Written

/-!
# Stored days and times

A day is stored as ten characters, a point in time as the ten characters of its day and then those
of its wall clock. Neither is read as a number (`take_date`, `take_wall`), the database finds the
day at the front of both (`day_date`, `day_wall`), and the first instant of a day comes before all
others that are stored under it (`le_wall_of_le_day`).
-/

set_option autoImplicit false

namespace RecordListing

open Text

/-- Whether the cell holds nothing or what a column of days or of points in time stores. -/
def ColumnType.Stores (type : ColumnType) (cell : Cell) : Prop :=
  match type with
  | .date => cell = .null ∨ ∃ d : Date, cell = .text d.text
  | .datetime _ => cell = .null ∨ ∃ t : Timestamp, cell = .text t.wallText
  | _ => True

theorem ColumnType.stores_null (type : ColumnType) : type.Stores .null := by
  cases type <;> simp [Stores]

/-- Whether the rows of an entity hold in a column, if it is one of days or of points in time, what
such a column stores. -/
def Database.StoresTimes (db : Database) (entity : Entity) (column : Column) : Prop :=
  ∀ row ∈ db.rows entity.table, column.type.Stores (row.cell column.physical)

/-! ## Characters -/

/-- The characters of a time of day as it is stored. -/
def Clock.storedChars (clock : Clock) : List Char :=
  fixedDigits 2 clock.hour ++ ':' :: (fixedDigits 2 clock.minute ++
    ':' :: (fixedDigits 2 clock.second ++ '.' :: fixedDigits 6 clock.micros))

theorem Timestamp.wallText_toList (t : Timestamp) :
    t.wallText.toList = t.date.text.toList ++ ' ' :: t.clock.storedChars := by
  obtain ⟨date, ⟨hour, minute, second, micros, hh, hm, hs, hu⟩, offset⟩ := t
  simp only [Timestamp.wallText, String.toList_append, padded_toList (show 0 < 2 by decide)
    (show hour < 10 ^ 2 by omega), padded_toList (show 0 < 2 by decide)
    (show minute < 10 ^ 2 by omega), padded_toList (show 0 < 2 by decide)
    (show second < 10 ^ 2 by omega), padded_toList (show 0 < 6 by decide)
    (show micros < 10 ^ 6 by omega), Clock.storedChars]
  simp

/-! ## No number -/

/-- What stands between two characters that are kept is kept. -/
theorem exists_stripped {isOut : Char → Bool} {first last : Char} (hfirst : isOut first = false)
    (hlast : isOut last = false) (middle rest : List Char) :
    ∃ kept, stripped isOut (first :: (middle ++ last :: rest)) =
      first :: (middle ++ last :: kept) := by
  have back (xs ys : List Char) :
      ∃ kept, (xs ++ last :: ys).dropWhile isOut = kept ++ last :: ys := by
    induction xs with
    | nil => exact ⟨[], by simp [hlast]⟩
    | cons x xs ih =>
      obtain ⟨kept, hk⟩ := ih
      cases hx : isOut x with
      | false => exact ⟨x :: xs, by simp [hx]⟩
      | true => exact ⟨kept, by simp [hx, hk]⟩
  obtain ⟨kept, hk⟩ := back rest.reverse (first :: middle).reverse
  refine ⟨kept.reverse, ?_⟩
  have turned : (first :: (middle ++ last :: rest)).reverse =
      rest.reverse ++ last :: (first :: middle).reverse := by simp
  rw [stripped, List.dropWhile_cons_of_neg (by simp [hfirst]), turned, hk]
  simp

/-- A text that begins with four digits and a hyphen writes no number. -/
theorem numberOf?_eq_none {s : String} {year : Nat} {rest : List Char}
    (h : s.toList = fixedDigits 4 year ++ '-' :: rest) : Cell.numberOf? s = none := by
  obtain ⟨a, middle, ha⟩ : ∃ a middle, fixedDigits 4 year = a :: middle := ⟨_, _, rfl⟩
  have no_gap : ∀ c ∈ fixedDigits 4 year, Cell.isNumberGap c = false :=
    forall_mem_fixedDigits (by decide) 4 year
  have gap : Cell.isNumberGap a = false := no_gap a (ha ▸ List.mem_cons_self)
  obtain ⟨kept, hk⟩ := exists_stripped gap (by decide : Cell.isNumberGap '-' = false) middle rest
  have none_left : Numeral.ofChars? (fixedDigits 4 year ++ '-' :: kept) = none := by
    have some_digit : fixedDigits 4 year ≠ [] := by simp [ha]
    obtain ⟨sign, values, coefficient, power⟩ :=
      hyphenated_unread (isDecimalDigit_fixedDigits 4 year) some_digit kept
    simp only [Numeral.ofChars?, sign, coefficient, power]
    rfl
  rw [ha, List.cons_append] at h none_left
  unfold Cell.numberOf?
  simp only [h, hk, none_left]
  split <;> rfl

theorem take_date (d : Date) : Cell.asNumber (.text d.text) = .text d.text := by
  simp only [Cell.asNumber, numberOf?_eq_none d.text_toList, Option.getD_none]

theorem take_wall (t : Timestamp) : Cell.asNumber (.text t.wallText) = .text t.wallText := by
  have chars := t.wallText_toList
  rw [Date.text_toList, List.append_assoc, List.cons_append] at chars
  simp only [Cell.asNumber, numberOf?_eq_none chars, Option.getD_none]

/-! ## Days -/

theorem dayOfText?_front {s : String} {d : Date} {rest : List Char}
    (h : Cell.untilEnd s = d.text.toList ++ rest) :
    Cell.dayOfText? s = Cell.dayAtFront? d.year d.month d.day rest := by
  obtain ⟨hy, hm, hm', hd, hd'⟩ := d.bounds
  have year := read_digits hy
  have month := read_digits (show d.month < 10 ^ 2 by omega)
  have day := read_digits (show d.day < 10 ^ 2 by omega)
  obtain ⟨y₁, y₂, y₃, y₄, hy⟩ : ∃ a b c e, fixedDigits 4 d.year = [a, b, c, e] := ⟨_, _, _, _, rfl⟩
  obtain ⟨m₁, m₂, hmonth⟩ : ∃ a b, fixedDigits 2 d.month = [a, b] := ⟨_, _, rfl⟩
  obtain ⟨d₁, d₂, hday⟩ : ∃ a b, fixedDigits 2 d.day = [a, b] := ⟨_, _, rfl⟩
  rw [Date.text_toList, hy, hmonth, hday] at h
  rw [hy] at year
  rw [hmonth] at month
  rw [hday] at day
  unfold Cell.dayOfText?
  rw [h]
  simp [year, month, day, hm, hm', hd, hd']

theorem untilEnd_eq {s : String} (h : ∀ c ∈ s.toList, c.toNat ≠ 0) :
    Cell.untilEnd s = s.toList := by
  rw [Cell.untilEnd, List.takeWhile_eq_self_iff]
  simpa using h

theorem digits_ne_end (width n : Nat) : ∀ c ∈ fixedDigits width n, c.toNat ≠ 0 :=
  forall_mem_fixedDigits (by decide) width n

theorem Date.text_ne_end (d : Date) : ∀ c ∈ d.text.toList, c.toNat ≠ 0 :=
  d.forall_mem_text (by decide) (by decide)

theorem day_date (d : Date) : (Cell.text d.text).day = .text d.text := by
  have front : Cell.untilEnd d.text = d.text.toList ++ [] := by
    rw [untilEnd_eq d.text_ne_end, List.append_nil]
  have found : Cell.dayOfText? d.text = some d.text := dayOfText?_front front
  simp only [Cell.day, found, Option.map_some, Option.getD_some]

/-- A stored time of day is read as hours and minutes without an offset. -/
theorem clockAndShift?_stored (clock : Clock) :
    ∃ minutes, Cell.clockAndShift? clock.storedChars = some (minutes, 0) := by
  obtain ⟨hour_lt, minute_lt, second_lt, -⟩ := clock.valid
  have hour := read_digits (show clock.hour < 10 ^ 2 by omega)
  have minute := read_digits (show clock.minute < 10 ^ 2 by omega)
  have second := read_digits (show clock.second < 10 ^ 2 by omega)
  obtain ⟨h₁, h₂, hh⟩ : ∃ a b, fixedDigits 2 clock.hour = [a, b] := ⟨_, _, rfl⟩
  obtain ⟨m₁, m₂, hm⟩ : ∃ a b, fixedDigits 2 clock.minute = [a, b] := ⟨_, _, rfl⟩
  obtain ⟨s₁, s₂, hs⟩ : ∃ a b, fixedDigits 2 clock.second = [a, b] := ⟨_, _, rfl⟩
  obtain ⟨u, us, hu⟩ : ∃ u us, fixedDigits 6 clock.micros = u :: us := ⟨_, _, rfl⟩
  have plain : ∀ c ∈ u :: us, isPlainDigit c = true :=
    hu ▸ forall_mem_fixedDigits (by decide) 6 clock.micros
  have tail : us.dropWhile isPlainDigit = [] := by
    exact List.dropWhile_eq_nil_iff.2 fun c hc => plain c (List.mem_cons_of_mem _ hc)
  rw [hh] at hour
  rw [hm] at minute
  rw [hs] at second
  refine ⟨clock.hour * 60 + clock.minute, ?_⟩
  simp only [Clock.storedChars, hh, hm, hs, hu, List.cons_append, List.nil_append,
    Cell.clockAndShift?, hour, minute, Option.map_some, Cell.clockAndShift?.afterMinutes, second,
    plain u List.mem_cons_self, tail, Cell.clockAndShift?.shiftOf, List.dropWhile_nil]
  rw [if_pos (by omega), if_pos (by omega)]
  rfl

theorem day_wall (t : Timestamp) : (Cell.text t.wallText).day = .text t.date.text := by
  have stored_ne_end : ∀ c ∈ t.clock.storedChars, c.toNat ≠ 0 := by
    simp only [Clock.storedChars, List.forall_mem_append, List.forall_mem_cons]
    exact ⟨digits_ne_end _ _, by decide, digits_ne_end _ _, by decide, digits_ne_end _ _,
      by decide, digits_ne_end _ _⟩
  have front : Cell.untilEnd t.wallText = t.date.text.toList ++ ' ' :: t.clock.storedChars := by
    rw [untilEnd_eq, t.wallText_toList]
    rw [t.wallText_toList, List.forall_mem_append, List.forall_mem_cons]
    exact ⟨t.date.text_ne_end, by decide, stored_ne_end⟩
  obtain ⟨minutes, clock⟩ := clockAndShift?_stored t.clock
  obtain ⟨h, time, ht⟩ : ∃ h time, t.clock.storedChars = h :: time := ⟨_, _, rfl⟩
  have kept : (Cell.isNumberGap h || h == 'T') = false := by
    have digits : ∀ c ∈ fixedDigits 2 t.clock.hour, (Cell.isNumberGap c || c == 'T') = false :=
      forall_mem_fixedDigits (by decide) 2 t.clock.hour
    exact digits h (by obtain rfl := (List.cons.inj ht).1; exact List.mem_cons_self)
  have after : (' ' :: t.clock.storedChars).dropWhile (fun c => Cell.isNumberGap c || c == 'T') =
      h :: time := by
    rw [ht, List.dropWhile_cons_of_pos (by decide), List.dropWhile_cons_of_neg (by simp [kept])]
  have found : Cell.dayOfText? t.wallText = some t.date.text := by
    rw [dayOfText?_front front, Cell.dayAtFront?, after]
    simp only [← ht, clock, Option.bind_some, if_true]
    rfl
  simp only [Cell.day, found, Option.map_some, Option.getD_some]

/-! ## Order -/

theorem compareChars_append {xs ys : List Char} (h : xs.length = ys.length) (us vs : List Char) :
    Cell.compareChars (xs ++ us) (ys ++ vs) =
      (Cell.compareChars xs ys).then (Cell.compareChars us vs) := by
  induction xs generalizing ys with
  | nil =>
    cases ys with
    | nil => rfl
    | cons y ys => cases h
  | cons x xs ih =>
    cases ys with
    | nil => cases h
    | cons y ys =>
      simp only [List.cons_append, Cell.compareChars, ih (Nat.succ.inj h)]
      cases compare x.toNat y.toNat <;> rfl

theorem then_ne_lt {a b : Ordering} (ha : a ≠ .lt) (hb : b ≠ .lt) : a.then b ≠ .lt := by
  cases a with
  | lt => exact absurd rfl ha
  | eq => exact hb
  | gt => exact ha

theorem compareChars_cons_ne_lt {c : Char} {us vs : List Char}
    (h : Cell.compareChars us vs ≠ .lt) : Cell.compareChars (c :: us) (c :: vs) ≠ .lt := by
  simpa [Cell.compareChars] using h

/-- Digits do not come before as many zeros. -/
theorem digits_ne_lt_zeros (width n : Nat) {us vs : List Char}
    (h : Cell.compareChars us vs ≠ .lt) :
    Cell.compareChars (fixedDigits width n ++ us) (fixedDigits width 0 ++ vs) ≠ .lt := by
  rw [compareChars_append (by simp)]
  refine then_ne_lt ?_ h
  have least : ∀ c ∈ fixedDigits width n, compare c.toNat '0'.toNat ≠ .lt :=
    forall_mem_fixedDigits (by decide) width n
  have zeros : fixedDigits width 0 = List.replicate (fixedDigits width n).length '0' := by
    rw [length_fixedDigits, fixedDigits_zero]
  rw [zeros]
  generalize fixedDigits width n = cs at least
  induction cs with
  | nil => decide
  | cons c cs ih =>
    exact then_ne_lt (least c List.mem_cons_self)
      (ih fun b hb => least b (List.mem_cons_of_mem _ hb))

theorem midnight_le (clock : Clock) :
    Cell.compareChars clock.storedChars Clock.midnight.storedChars ≠ .lt := by
  have last : Cell.compareChars (fixedDigits 6 clock.micros ++ []) (fixedDigits 6 0 ++ []) ≠ .lt :=
    digits_ne_lt_zeros 6 clock.micros (by decide)
  rw [List.append_nil, List.append_nil] at last
  exact digits_ne_lt_zeros 2 _ (compareChars_cons_ne_lt (digits_ne_lt_zeros 2 _
    (compareChars_cons_ne_lt (digits_ne_lt_zeros 2 _ (compareChars_cons_ne_lt last)))))

/-- What is stored under a day that is not before another one is not before its first instant. -/
theorem le_wall_of_le_day {t : Timestamp} {first : Date}
    (h : Cell.compare (.text t.date.text) (.text first.text) ≠ .lt) :
    Cell.compare (.text t.wallText) (.text (Timestamp.startOf first).wallText) ≠ .lt := by
  simp only [Cell.compare, Timestamp.wallText_toList] at h ⊢
  have same : t.date.text.toList.length = first.text.toList.length := by
    simp [Date.text_toList]
  rw [show (Timestamp.startOf first).date = first from rfl, compareChars_append same]
  exact then_ne_lt h (compareChars_cons_ne_lt (midnight_le t.clock))

end RecordListing
