import RecordListing.Number.Power
import RecordListing.Time.Timestamp
import RecordListing.Text.Digit
import RecordListing.Text.Blank

/-!
# Reading days and times

A day is written `YYYY-MM-DD`, `YYYYMMDD`, or by week as `YYYY-Www-D`, `YYYY-Www`, `YYYYWwwD` or
`YYYYWww`. A time follows after any one character: `HH`, `HH:MM`, `HH:MM:SS` with or without colons,
a fraction of a second, and an offset, `Z` being universal time. Digits are those of ASCII.
-/

set_option autoImplicit false

namespace RecordListing

open Text

/-- The value of a digit of ASCII. -/
def plainValue? (c : Char) : Option Nat :=
  if isPlainDigit c then some (c.toNat - 0x30) else none

/-- The number written by exactly `count` digits at the front, and what follows. -/
def takeNumber? : (count : Nat) → List Char → Option (Nat × List Char)
  | count, cs =>
    if cs.length < count then none
    else ((cs.take count).mapM plainValue?).map fun ds => (ofDigitValues ds, cs.drop count)

/-! ## Days -/

/-- Whether a text has the form of a date: four, two and two digits of any script. -/
def isDateShaped (cs : List Char) : Bool :=
  match cs with
  | [a, b, c, d, '-', e, f, '-', g, h] => [a, b, c, d, e, f, g, h].all isDecimalDigit
  | _ => false

/-- Whether a text names a whole day, blanks around it aside. -/
def isDateOnly (s : String) : Bool := isDateShaped (trimmed s.toList)

/-- Year, month and day from a text in the form of a date. -/
def readDateParts? (cs : List Char) : Option (Nat × Nat × Nat) :=
  match takeNumber? 4 cs with
  | some (year, '-' :: rest) =>
    match takeNumber? 2 rest with
    | some (month, '-' :: tail) =>
      match takeNumber? 2 tail with
      | some (day, []) => some (year, month, day)
      | _ => none
    | _ => none
  | _ => none

/-- The day that a text in the form of a date names. -/
def Date.read (cs : List Char) : Except DateFault Date :=
  match readDateParts? cs with
  | some (year, month, day) => Date.ofParts year month day
  | none => .error (.notADate (String.ofList cs))

/-- The day of a week: the week, and the day in it after `mark`, which is Monday if left out. -/
def readWeek? (year : Nat) (hyphenated : Bool) (cs : List Char) : Option Date :=
  match takeNumber? 2 cs with
  | some (week, []) => Date.ofWeek? year week 1
  | some (week, '-' :: rest) =>
    if hyphenated then
      match takeNumber? 1 rest with
      | some (day, _) => Date.ofWeek? year week day
      | none => none
    else none
  | some (week, rest) =>
    if hyphenated then none
    else
      match takeNumber? 1 rest with
      | some (day, _) => Date.ofWeek? year week day
      | none => none
  | none => none

/-- The day written in any of the forms. -/
def readDay? (cs : List Char) : Option Date :=
  match takeNumber? 4 cs with
  | some (year, '-' :: 'W' :: rest) => readWeek? year true rest
  | some (year, 'W' :: rest) => readWeek? year false rest
  | some (_, '-' :: _) =>
    match readDateParts? cs with
    | some (year, month, day) => Date.ofParts? year month day
    | none => none
  | some (year, rest) =>
    match takeNumber? 4 rest with
    | some (monthDay, []) => Date.ofParts? year (monthDay / 100) (monthDay % 100)
    | _ => none
  | none => none

/-- How many characters the day takes, which the fifth and sixth character tell, and by week the
run of digits after it. -/
def dayLength (cs : List Char) : Nat :=
  let size := cs.length
  if size = 7 then 7
  else if cs[4]? = some '-' then
    if cs[5]? = some 'W' then
      if cs[8]? = some '-' then
        if 10 < size ∧ (cs[10]?.map isPlainDigit).getD false then 8 else 10
      else 8
    else 10
  else if cs[4]? = some 'W' then
    let digitsEnd := 7 + ((cs.drop 7).takeWhile isPlainDigit).length
    if digitsEnd < 9 then digitsEnd else if digitsEnd % 2 = 0 then 7 else 8
  else 8

/-! ## Times -/

/-- The parts of a time of day or of an offset. -/
structure ClockParts where
  hour : Nat
  minute : Nat
  second : Nat
  micros : Nat
  /-- Whether characters follow that belong to no part. -/
  more : Bool

def ClockParts.ofUnits (units : List Nat) (micros : Nat) (more : Bool) : ClockParts :=
  ⟨units.getD 0 0, units.getD 1 0, units.getD 2 0, micros, more⟩

/-- Whether something is left over where the time has been read; a null character ends the text. -/
def isLeftOver (followed : Bool) : List Char → Bool
  | [] => followed
  | c :: _ => c ≠ '\x00'

/-- A fraction of a second: up to six digits count, further ones are passed over. -/
def readFraction? (followed : Bool) (units : List Nat) (cs : List Char) : Option ClockParts :=
  let count := min 6 cs.length
  (takeNumber? count cs).map fun (n, rest) =>
    .ofUnits units (n * tenTo (6 - count)) (isLeftOver followed (rest.dropWhile isPlainDigit))

/-- Reads up to `left` more units of two digits, then the fraction. Whether colons stand between
units shows after the first. -/
def readUnits? (followed : Bool) : (left : Nat) → (colons : Option Bool) → (units : List Nat) →
    List Char → Option ClockParts
  | 0, _, units, cs => readFraction? followed units cs
  | left + 1, colons, units, cs =>
    match takeNumber? 2 cs with
    | none => none
    | some (n, rest) =>
      let units := units ++ [n]
      match rest with
      | [] => some (.ofUnits units 0 followed)
      | [c] => if c.utf8Size = 1 then some (.ofUnits units 0 (isLeftOver followed [c])) else none
      | c :: tail =>
        let colons := colons.getD (c == ':')
        if colons ∧ c = ':' then readUnits? followed left (some colons) units tail
        else if c = '.' ∨ c = ',' then readFraction? followed units tail
        else if colons then none
        else readUnits? followed left (some colons) units (c :: tail)

def isOffsetMark (c : Char) : Bool := c == '+' || c == '-' || c == 'Z'

/-- The offset after its sign. One of less than a second is universal time. -/
def readOffset? (negative : Bool) (cs : List Char) : Option Offset :=
  match readUnits? false 3 none [] cs with
  | none => none
  | some parts =>
    let seconds := parts.hour * 3600 + parts.minute * 60 + parts.second
    let size : Int := seconds * 1000000 + parts.micros
    if parts.more then none
    else if seconds = 0 then some .universal
    else Offset.ofMicros? (if negative then -size else size)

/-- The time of day and its offset. -/
def readTime? (cs : List Char) : Option (Clock × Option Offset) :=
  let front := cs.takeWhile fun c => !isOffsetMark c
  let mark := cs.dropWhile fun c => !isOffsetMark c
  match readUnits? (!mark.isEmpty) 3 none [] front with
  | none => none
  | some parts =>
    match Clock.ofParts? parts.hour parts.minute parts.second parts.micros with
    | none => none
    | some clock =>
      match mark with
      | [] => if parts.more then none else some (clock, none)
      | 'Z' :: rest => if isLeftOver false rest then none else some (clock, some .universal)
      | sign :: rest => (readOffset? (sign == '-') rest).map fun offset => (clock, some offset)

/-- The point in time that a text names. A day alone is its first instant. -/
def Timestamp.read? (cs : List Char) : Option Timestamp :=
  if cs.length < 7 then none
  else
    match readDay? (cs.take (dayLength cs)) with
    | none => none
    | some date =>
      match cs.drop (dayLength cs) with
      | [] => some (.startOf date)
      | _ :: time => (readTime? time).map fun (clock, offset) => ⟨date, clock, offset⟩

end RecordListing
