import RecordListing.Time.Calendar

/-!
# Points in time

A timestamp is a day, a time of day to the microsecond, and an offset from universal time unless it
is a bare wall-clock time.
-/

set_option autoImplicit false

namespace RecordListing

open Text

structure Clock where
  hour : Nat
  minute : Nat
  second : Nat
  micros : Nat
  valid : hour < 24 ∧ minute < 60 ∧ second < 60 ∧ micros < 1000000
deriving DecidableEq, Repr

namespace Clock

def ofParts? (hour minute second micros : Nat) : Option Clock :=
  if h : hour < 24 ∧ minute < 60 ∧ second < 60 ∧ micros < 1000000 then
    some ⟨hour, minute, second, micros, h⟩
  else none

def midnight : Clock := ⟨0, 0, 0, 0, by decide⟩

/-- The time that many microseconds after midnight, counted round the clock. -/
def ofMicros (n : Nat) : Clock :=
  ⟨n / 3600000000 % 24, n / 60000000 % 60, n / 1000000 % 60, n % 1000000, by omega⟩

/-- Hours, minutes and seconds between colons, with the microseconds unless they are zero. -/
def text (clock : Clock) : String :=
  padded 2 clock.hour ++ ":" ++ padded 2 clock.minute ++ ":" ++ padded 2 clock.second ++
    if clock.micros = 0 then "" else "." ++ padded 6 clock.micros

end Clock

/-- A distance from universal time of less than a day. -/
structure Offset where
  micros : Int
  valid : -86400000000 < micros ∧ micros < 86400000000
deriving DecidableEq, Repr

namespace Offset

def ofMicros? (micros : Int) : Option Offset :=
  if h : -86400000000 < micros ∧ micros < 86400000000 then some ⟨micros, h⟩ else none

/-- Universal time itself. -/
def universal : Offset := ⟨0, by decide⟩

/-- A sign, hours and minutes; then seconds and microseconds where there are any. -/
def text (offset : Offset) : String :=
  let size := offset.micros.natAbs
  let seconds := size / 1000000 % 60
  let micros := size % 1000000
  (if offset.micros < 0 then "-" else "+") ++ padded 2 (size / 3600000000) ++ ":" ++
    padded 2 (size / 60000000 % 60) ++
    (if seconds = 0 ∧ micros = 0 then "" else ":" ++ padded 2 seconds) ++
    (if micros = 0 then "" else "." ++ padded 6 micros)

end Offset

structure Timestamp where
  date : Date
  clock : Clock
  /-- Absent from a bare wall-clock time. -/
  offset : Option Offset
deriving DecidableEq, Repr

namespace Timestamp

/-- The first instant of a day. -/
def startOf (date : Date) : Timestamp := ⟨date, .midnight, none⟩

/-- Takes a bare time for universal time. -/
def orUniversal (t : Timestamp) : Timestamp :=
  { t with offset := t.offset.orElse fun _ => some .universal }

def textWith (separator : String) (t : Timestamp) : String :=
  t.date.text ++ separator ++ t.clock.text ++ (t.offset.map Offset.text).getD ""

/-- Day and time around a `T`. -/
def isoText (t : Timestamp) : String := t.textWith "T"

/-- Day and time around a blank. -/
def text (t : Timestamp) : String := t.textWith " "

/-- The digits of day and wall clock, always with microseconds, without the offset. -/
def wallText (t : Timestamp) : String :=
  t.date.text ++ " " ++ padded 2 t.clock.hour ++ ":" ++ padded 2 t.clock.minute ++ ":" ++
    padded 2 t.clock.second ++ "." ++ padded 6 t.clock.micros

/-- The universal time that many microseconds after the beginning of 1970. -/
def ofEpochMicros? (micros : Int) : Option Timestamp :=
  let day := micros / 86400000000
  (Date.ofDayNumber? (719163 + day).toNat).map fun date =>
    ⟨date, .ofMicros (micros % 86400000000).toNat, some .universal⟩

end Timestamp

end RecordListing
