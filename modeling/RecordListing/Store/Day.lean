import RecordListing.Store.Cell
import RecordListing.Time.Iso

/-!
# Days of cells

The day that a cell stands for, as a text: that of a text which begins with a day or is a time
alone, or that of a number of days. This is the `date()` of SQLite before release 3.43. From that
release on a moment is rounded to milliseconds before its day is taken where the day is past the
28th, so that the last half millisecond of such a day counts to the next one.
-/

set_option autoImplicit false

namespace RecordListing

open Text

namespace Cell

/-- The day of a moment that is counted in days from the noon 1721425 and a half days before the
calendar begins. A day before the calendar has a text that comes before those of all others. -/
def dayOfJulian (number : Binary64) : Option String :=
  match number with
  | .finite s m e =>
    let value := Binary64.ratio m e
    let half : Int := (2 * value.1 / value.2 : Nat)
    let days : Int := ((half + 1).fdiv 2) - 1721425
    if s then none
    else if half ≥ 2 * 5373484 + 1 then none
    else if days < 1 then some "-"
    else (Date.ofDayNumber? days.toNat).map Date.text
  | _ => none

/-- Hours and minutes, with seconds and a fraction if there are any, and an offset in minutes. -/
def clockAndShift? (cs : List Char) : Option (Int × Int) :=
  let two (ds : List Char) : Option Nat := (takeNumber? 2 ds).map (·.1)
  match cs with
  | h :: h' :: ':' :: m :: m' :: rest =>
    match two [h, h'], two [m, m'] with
    | some hour, some minute =>
      if hour ≤ 24 ∧ minute ≤ 59 then
        (afterMinutes rest).map fun shift => (hour * 60 + minute, shift)
      else none
    | _, _ => none
  | _ => none
where
  /-- The offset after the minutes, seconds aside. -/
  afterMinutes (cs : List Char) : Option Int :=
    match cs with
    | ':' :: s :: s' :: rest =>
      match takeNumber? 2 [s, s'] with
      | some (second, _) =>
        if second ≤ 59 then
          match rest with
          | '.' :: d :: tail =>
            if isPlainDigit d then shiftOf (tail.dropWhile isPlainDigit) else none
          | _ => shiftOf rest
        else none
      | none => none
    | _ => shiftOf cs
  /-- The offset in minutes. -/
  shiftOf (cs : List Char) : Option Int :=
    match cs.dropWhile isNumberGap with
    | [] => some 0
    | 'Z' :: rest | 'z' :: rest => if rest.all isNumberGap then some 0 else none
    | sign :: h :: h' :: ':' :: m :: m' :: rest =>
      match takeNumber? 2 [h, h'], takeNumber? 2 [m, m'] with
      | some (hour, _), some (minute, _) =>
        if (sign = '+' ∨ sign = '-') ∧ hour ≤ 14 ∧ minute ≤ 59 ∧ rest.all isNumberGap then
          let size : Int := hour * 60 + minute
          some (if sign = '-' then -size else size)
        else none
      | _, _ => none
    | _ => none

/-- The day that lies `minutes` after the beginning of a day of a month that may be too short. -/
def dayAfter? (year month day : Nat) (minutes : Int) : Option String :=
  (Date.ofParts? year month 1).bind fun first =>
    (Date.ofDayNumber? (first.dayNumber + (day - 1) + minutes.fdiv 1440).toNat).map Date.text

/-- The day of a text that begins with one. It stands as written, unless an offset moves it; SQLite
from release 3.43 on does so up to the 28th of a month only. -/
def dayAtFront? (year month day : Nat) (rest : List Char) : Option String :=
  let written := padded 4 year ++ "-" ++ padded 2 month ++ "-" ++ padded 2 day
  match rest.dropWhile fun c => isNumberGap c || c == 'T' with
  | [] => some written
  | time =>
    (clockAndShift? time).bind fun (minutes, shift) =>
      if shift = 0 then some written else dayAfter? year month day (minutes - shift)

/-- The day of a text that writes a day, optionally with a time, or a time of the first day of 2000,
or a number of days. -/
def dayOfText? (s : String) : Option String :=
  match untilEnd s with
  | a :: b :: c :: d :: '-' :: e :: f :: '-' :: g :: h :: rest =>
    match takeNumber? 4 [a, b, c, d], takeNumber? 2 [e, f], takeNumber? 2 [g, h] with
    | some (year, _), some (month, _), some (day, _) =>
      if 1 ≤ month ∧ month ≤ 12 ∧ 1 ≤ day ∧ day ≤ 31 then dayAtFront? year month day rest else none
    | _, _, _ => none
  | cs =>
    match clockAndShift? cs with
    | some (minutes, shift) => dayAfter? 2000 1 1 (minutes - shift)
    | none =>
      match numberOf? (String.ofList cs) with
      | some (.int n) => dayOfJulian (.ofInt n)
      | some (.real x) => dayOfJulian x
      | _ => none

/-- The day of a cell, as text. -/
def day (cell : Cell) : Cell :=
  let day? :=
    match cell with
    | .null => none
    | .int n => dayOfJulian (.ofInt n)
    | .real x => dayOfJulian x
    | .text s => dayOfText? s
  (day?.map Cell.text).getD .null

end Cell

end RecordListing
