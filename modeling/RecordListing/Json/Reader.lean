import RecordListing.Json.Basic
import RecordListing.Time.Iso

/-!
# Reading JSON

The document that a text writes. A key written twice keeps its first place and its last value; the
names of the infinities and of what is no number are read as well.
-/

set_option autoImplicit false

namespace RecordListing.Json

open RecordListing.Text

def isGap (c : Char) : Bool := c == ' ' || c == '\t' || c == '\n' || c == '\r'

def skipGaps (cs : List Char) : List Char := cs.dropWhile isGap

/-! ## Strings -/

/-- The value of four hexadecimal digits. -/
def unitValue? (ds : List Char) : Option Nat :=
  (ds.mapM fun c => if c.toNat < 0x80 then hexValue? c else none).map
    (·.foldl (fun n d => n * 16 + d) 0)

/-- The character that a letter stands for behind a backslash. -/
def escapeValue? (c : Char) : Option Nat :=
  if c = '"' ∨ c = '\\' ∨ c = '/' then some c.toNat
  else if c = 'n' then some 0x0A
  else if c = 'r' then some 0x0D
  else if c = 't' then some 0x09
  else if c = 'f' then some 0x0C
  else if c = 'b' then some 0x08
  else none

/-- The code units of a string up to its closing quote, and what follows it. -/
def readUnits? : List Char → Option (List Nat × List Char)
  | [] => none
  | '"' :: cs => some ([], cs)
  | '\\' :: 'u' :: a :: b :: c :: d :: cs =>
    match unitValue? [a, b, c, d], readUnits? cs with
    | some unit, some (units, rest) => some (unit :: units, rest)
    | _, _ => none
  | '\\' :: c :: cs =>
    match escapeValue? c, readUnits? cs with
    | some unit, some (units, rest) => some (unit :: units, rest)
    | _, _ => none
  | c :: cs =>
    if c.toNat < 0x20 ∨ c = '\\' then none
    else (readUnits? cs).map fun (units, rest) => (c.toNat :: units, rest)

def isHighUnit (unit : Nat) : Bool := 0xD800 ≤ unit && unit < 0xDC00

def isLowUnit (unit : Nat) : Bool := 0xDC00 ≤ unit && unit < 0xE000

/-- What stands for half a character. -/
def replacement : Char := Char.ofNat 0xFFFD

/-- The character of a unit that is not the first half of one. -/
def unitChar (unit : Nat) : Char := if isLowUnit unit then replacement else Char.ofNat unit

/-- The characters of code units, `pending` being the first half of one. -/
def mergeUnits : (pending : Option Nat) → List Nat → List Char
  | none, [] => []
  | some _, [] => [replacement]
  | none, unit :: units =>
    if isHighUnit unit then mergeUnits (some unit) units
    else unitChar unit :: mergeUnits none units
  | some high, unit :: units =>
    if isLowUnit unit then
      Char.ofNat (0x10000 + (high - 0xD800) * 0x400 + (unit - 0xDC00)) :: mergeUnits none units
    else if isHighUnit unit then replacement :: mergeUnits (some unit) units
    else replacement :: unitChar unit :: mergeUnits none units

/-- The string after its opening quote. -/
def readString? (cs : List Char) : Option (String × List Char) :=
  (readUnits? cs).map fun (units, rest) => (String.ofList (mergeUnits none units), rest)

/-! ## Numbers -/

/-- The digits at the front and what follows them; a zero stands alone. -/
def takeWhole (cs : List Char) : List Char × List Char :=
  match cs with
  | '0' :: rest => (['0'], rest)
  | _ => (cs.takeWhile isPlainDigit, cs.dropWhile isPlainDigit)

/-- A point and digits, if both are there. -/
def takeFraction (cs : List Char) : List Char × List Char :=
  match cs with
  | '.' :: rest =>
    let digits := rest.takeWhile isPlainDigit
    if digits.isEmpty then ([], cs) else ('.' :: digits, rest.dropWhile isPlainDigit)
  | _ => ([], cs)

/-- A power of ten, if it is complete. -/
def takePower (cs : List Char) : List Char × List Char :=
  match cs with
  | c :: rest =>
    if c = 'e' ∨ c = 'E' then
      let tail := (takeSign rest).2
      let digits := tail.takeWhile isPlainDigit
      if digits.isEmpty then ([], cs)
      else ('e' :: (if (takeSign rest).1 then ['-'] else []) ++ digits, tail.dropWhile isPlainDigit)
    else ([], cs)
  | [] => ([], [])

/-- A number that is not negative, and what follows. -/
def readSize? (negative : Bool) (cs : List Char) : Option (Json × List Char) :=
  let whole := takeWhole cs
  let fraction := takeFraction whole.2
  let power := takePower fraction.2
  if whole.1.isEmpty then none
  else if fraction.1.isEmpty && power.1.isEmpty then
    let n : Int := ofDigitValues (takeDigits whole.1).1
    some (.int (if negative then -n else n), power.2)
  else
    (Decimal.ofLiteral? (whole.1 ++ fraction.1 ++ power.1)).map fun d =>
      (.real (.ofDecimal { d with negative := negative }), power.2)

/-- The names of values, each with its value. -/
def names : List (List Char × Json) := [
  ("null".toList, .null), ("true".toList, .bool true), ("false".toList, .bool false),
  ("NaN".toList, .real .nan), ("Infinity".toList, .real (.infinite false)),
  ("-Infinity".toList, .real (.infinite true))]

/-- A name or a number. -/
def readAtom? (cs : List Char) : Option (Json × List Char) :=
  match names.findSome? fun (name, value) => (after? name cs).map fun rest => (value, rest) with
  | some found => some found
  | none =>
    match cs with
    | '-' :: rest => readSize? true rest
    | _ => readSize? false cs

/-! ## Documents -/

mutual

/-- A value at the front, and what follows it. -/
def readValue? : (fuel : Nat) → List Char → Option (Json × List Char)
  | 0, _ => none
  | fuel + 1, cs =>
    match skipGaps cs with
    | '"' :: rest => (readString? rest).map fun (s, rest) => (.text s, rest)
    | '[' :: rest =>
      match skipGaps rest with
      | ']' :: rest => some (.array [], rest)
      | rest => (readItems? fuel rest).map fun (items, rest) => (.array items, rest)
    | '\x7b' :: rest =>
      match skipGaps rest with
      | '\x7d' :: rest => some (.object [], rest)
      | rest =>
        (readMembers? fuel rest).map fun (members, rest) => (.object (withoutRepeats members), rest)
    | rest => readAtom? rest

/-- The items of an array up to its closing bracket. -/
def readItems? : (fuel : Nat) → List Char → Option (List Json × List Char)
  | 0, _ => none
  | fuel + 1, cs =>
    match readValue? fuel cs with
    | none => none
    | some (item, rest) =>
      match skipGaps rest with
      | ']' :: rest => some ([item], rest)
      | ',' :: rest => (readItems? fuel rest).map fun (items, rest) => (item :: items, rest)
      | _ => none

/-- The members of an object up to its closing brace. -/
def readMembers? : (fuel : Nat) → List Char → Option (List (String × Json) × List Char)
  | 0, _ => none
  | fuel + 1, cs =>
    match skipGaps cs with
    | '"' :: rest =>
      match readString? rest with
      | none => none
      | some (key, rest) =>
        match skipGaps rest with
        | ':' :: rest =>
          match readValue? fuel rest with
          | none => none
          | some (value, rest) =>
            match skipGaps rest with
            | '\x7d' :: rest => some ([(key, value)], rest)
            | ',' :: rest =>
              (readMembers? fuel rest).map fun (members, rest) => ((key, value) :: members, rest)
            | _ => none
        | _ => none
    | _ => none

end

/-- The document that the characters write. -/
def ofChars? (cs : List Char) : Option Json :=
  match readValue? (2 * cs.length + 2) cs with
  | some (value, rest) => if (skipGaps rest).isEmpty then some value else none
  | none => none

/-- The document that a text writes. -/
def parse? (s : String) : Option Json := ofChars? s.toList

end RecordListing.Json
