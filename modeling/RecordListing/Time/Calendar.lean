import RecordListing.Text.Quoted

/-!
# The calendar

Days of the years 1 to 9999. Day number 1 is the first day of year 1, a Monday.
-/

set_option autoImplicit false

namespace RecordListing

def isLeap (year : Nat) : Bool := year % 4 == 0 && (year % 100 != 0 || year % 400 == 0)

def daysIn (year month : Nat) : Nat :=
  if month = 2 then (if isLeap year then 29 else 28)
  else if month = 4 ∨ month = 6 ∨ month = 9 ∨ month = 11 then 30
  else 31

/-- Whether the numbers name a day of the calendar. -/
abbrev IsDate (year month day : Nat) : Prop :=
  1 ≤ year ∧ year ≤ 9999 ∧ 1 ≤ month ∧ month ≤ 12 ∧ 1 ≤ day ∧ day ≤ daysIn year month

structure Date where
  year : Nat
  month : Nat
  day : Nat
  valid : IsDate year month day
deriving DecidableEq, Repr

/-- Why a text names no day. -/
inductive DateFault
  /-- The text does not have the form of a date. -/
  | notADate (text : String)
  | yearOutOfRange
  | monthOutOfRange
  | dayOutOfRange
  /-- The day lies behind the last one of the calendar. -/
  | beyondCalendar
deriving DecidableEq, Repr

def DateFault.message : DateFault → String
  | .notADate text => "Invalid isoformat string: " ++ Text.quoted text
  | .yearOutOfRange => "year 0 is out of range"
  | .monthOutOfRange => "month must be in 1..12"
  | .dayOutOfRange => "day is out of range for month"
  | .beyondCalendar => "date value out of range"

namespace Date

def ofParts? (year month day : Nat) : Option Date :=
  if h : IsDate year month day then some ⟨year, month, day, h⟩ else none

/-- The day, or the first of its parts that is out of range. -/
def ofParts (year month day : Nat) : Except DateFault Date :=
  match ofParts? year month day with
  | some date => .ok date
  | none =>
    .error <|
      if year < 1 ∨ 9999 < year then .yearOutOfRange
      else if month < 1 ∨ 12 < month then .monthOutOfRange
      else .dayOutOfRange

/-- Days of the years before this one. -/
def daysBeforeYear (year : Nat) : Nat :=
  let y := year - 1
  365 * y + y / 4 - y / 100 + y / 400

/-- Days of the months of the year before this one. -/
def daysBeforeMonth (year month : Nat) : Nat :=
  (List.range (month - 1)).foldl (fun days m => days + daysIn year (m + 1)) 0

def dayNumber (date : Date) : Nat :=
  daysBeforeYear date.year + daysBeforeMonth date.year date.month + date.day

/-- The first month, counted from `month`, that the day falls into, and the day in it. -/
def monthOf (year : Nat) : (left month day : Nat) → Nat × Nat
  | 0, month, day => (month, day)
  | left + 1, month, day =>
    if day ≤ daysIn year month then (month, day)
    else monthOf year left (month + 1) (day - daysIn year month)

/-- The year of a day number: the last one that begins before it, which is at most one behind the
mean length of a year. -/
def yearOf (number : Nat) : Nat :=
  let guess := (number - 1) * 400 / 146097 + 1
  if daysBeforeYear (guess + 1) < number then guess + 1
  else if daysBeforeYear guess < number then guess
  else guess - 1

/-- The day with this number, if the calendar has it. -/
def ofDayNumber? (number : Nat) : Option Date :=
  let year := yearOf number
  let (month, day) := monthOf year 11 1 (number - daysBeforeYear year)
  if number = 0 then none else ofParts? year month day

/-- The day after; the calendar ends with year 9999. -/
def next? (date : Date) : Option Date :=
  if date.day < daysIn date.year date.month then ofParts? date.year date.month (date.day + 1)
  else if date.month < 12 then ofParts? date.year (date.month + 1) 1
  else ofParts? (date.year + 1) 1 1

/-- How many days the day lies behind the last Monday. -/
def weekdayOf (number : Nat) : Nat := (number + 6) % 7

/-- The number of the Monday that begins the first week of a year: the week of its first Thursday.
It may lie before the first day of the calendar only if the year does. -/
def firstMonday (year : Nat) : Int :=
  let newYear := daysBeforeYear year + 1
  let weekday := weekdayOf newYear
  let monday : Int := newYear - weekday
  if weekday > 3 then monday + 7 else monday

/-- How many weeks the year has. -/
def weeksIn (year : Nat) : Nat :=
  let weekday := weekdayOf (daysBeforeYear year + 1)
  if weekday = 3 ∨ (weekday = 2 ∧ isLeap year) then 53 else 52

/-- The day of a week of a year, Monday being day 1. -/
def ofWeek? (year week day : Nat) : Option Date :=
  if 1 ≤ year ∧ 1 ≤ week ∧ week ≤ weeksIn year ∧ 1 ≤ day ∧ day ≤ 7 then
    ofDayNumber? (firstMonday year + (week - 1) * 7 + day - 1).toNat
  else none

/-- Year, month and day between hyphens. -/
def text (date : Date) : String :=
  Text.padded 4 date.year ++ "-" ++ Text.padded 2 date.month ++ "-" ++ Text.padded 2 date.day

end Date

end RecordListing
