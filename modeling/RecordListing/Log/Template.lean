import RecordListing.Failure
import RecordListing.Json.Basic

/-!
# Message templates

A log message may hold places for arguments: a percent sign, an optional key in brackets, flags, a
width, a precision, and a letter that says how the argument is written. Two percent signs make one.
-/

set_option autoImplicit false

namespace RecordListing.Log

open RecordListing.Text

/-- How an argument is written. -/
structure Place where
  leftAligned : Bool := false
  zeroFilled : Bool := false
  signed : Bool := false
  blankSign : Bool := false
  alternate : Bool := false
  width : Option Nat := none
  precision : Option Nat := none
  letter : Char := 's'

/-- The arguments of a message. -/
structure Arguments where
  /-- Those that still await a place. -/
  pending : List Value
  /-- Those that are called by a key. -/
  named : Option (List (String × Value)) := none

/-! ## Reading a place -/

def flagged (place : Place) (c : Char) : Option Place :=
  if c = '-' then some { place with leftAligned := true }
  else if c = '0' then some { place with zeroFilled := true }
  else if c = '+' then some { place with signed := true }
  else if c = ' ' then some { place with blankSign := true }
  else if c = '#' then some { place with alternate := true }
  else none

def readFlags (place : Place) : List Char → Place × List Char
  | [] => (place, [])
  | c :: cs =>
    match flagged place c with
    | some place => readFlags place cs
    | none => (place, c :: cs)

/-- Takes the next argument. -/
def nextArgument (arguments : Arguments) : Outcome (Value × Arguments) :=
  match arguments.pending with
  | value :: pending => .ok (value, { arguments with pending })
  | [] => crashWith ⟨.badType, "not enough arguments for format string"⟩

/-- A count of ASCII digits, or an asterisk for the next argument; it is less than `limit`. -/
def readCount (limit : Nat) (arguments : Arguments) (cs : List Char) :
    Outcome (Option Int × Arguments × List Char) :=
  match cs with
  | '*' :: rest => do
    match ← nextArgument arguments with
    | (.int n, arguments) =>
      if -limit ≤ n ∧ n < limit then return (some n, arguments, rest)
      else crashWith ⟨.overflow, "number too large"⟩
    | (.bool b, arguments) => return (some (if b then 1 else 0), arguments, rest)
    | _ => crashWith ⟨.badType, "* wants int"⟩
  | _ =>
    let digits := (cs.takeWhile isPlainDigit)
    let count := ofDigitValues (takeDigits digits).1
    if digits.isEmpty then .ok (none, arguments, cs)
    else if limit ≤ count then crashWith ⟨.badValue, "count too big"⟩
    else .ok (some count, arguments, cs.dropWhile isPlainDigit)

def widthLimit : Nat := 0x8000000000000000

def precisionLimit : Nat := 0x80000000

/-- A key up to its closing bracket, and what follows; brackets may nest. -/
def readKey (depth : Nat) : List Char → Option (List Char × List Char)
  | [] => none
  | c :: cs =>
    if c = ')' then
      match depth with
      | 0 => some ([], cs)
      | depth + 1 => (readKey depth cs).map fun (key, rest) => (c :: key, rest)
    else (readKey (if c = '(' then depth + 1 else depth) cs).map fun (key, rest) => (c :: key, rest)

/-- A key in brackets at the front calls its argument, which is the only one that awaits a place. -/
def callByKey (arguments : Arguments) : List Char → Outcome (Arguments × List Char)
  | '(' :: cs =>
    match arguments.named, readKey 0 cs with
    | none, _ => crashWith ⟨.badType, "format requires a mapping"⟩
    | some _, none => crashWith ⟨.badValue, "incomplete format key"⟩
    | some entries, some (key, rest) =>
      match entries.lookup (String.ofList key) with
      | some value => .ok ({ arguments with pending := [value] }, rest)
      | none => crashWith ⟨.other "KeyError", quoted (String.ofList key)⟩
  | cs => .ok (arguments, cs)

/-! ## Writing an argument -/

/-- Fills a text to the width of its place, zeros going between the sign and the digits. -/
def fill (place : Place) (numeric : Bool) (sign : String) (text : String) : String :=
  let missing := place.width.getD 0 - (sign.length + text.length)
  let pad (c : Char) : String := String.ofList (List.replicate missing c)
  if place.leftAligned then sign ++ text ++ pad ' '
  else if numeric && place.zeroFilled then sign ++ pad '0' ++ text
  else pad ' ' ++ sign ++ text

def signOf (place : Place) (negative : Bool) : String :=
  if negative then "-" else if place.signed then "+" else if place.blankSign then " " else ""

/-- The whole part of what has one. -/
def wholePart (value : Value) : Outcome (Option Int) :=
  match value with
  | .int n => .ok (some n)
  | .bool b => .ok (some (if b then 1 else 0))
  | .decimal d => .ok (some d.truncate)
  | .special .nan => crashWith ⟨.badValue, "cannot convert NaN to integer"⟩
  | .special (.infinite _) => crashWith ⟨.overflow, "cannot convert Infinity to integer"⟩
  | .uuid id => .ok (some id.bits.toNat)
  | .float .nan => crashWith ⟨.badValue, "cannot convert float NaN to integer"⟩
  | .float (.infinite _) => crashWith ⟨.overflow, "cannot convert float infinity to integer"⟩
  | .float (.finite s m e) =>
    let value := Binary64.ratio m e
    let size : Int := (value.1 / value.2 : Nat)
    .ok (some (if s then -size else size))
  | _ => .ok none

/-- A number as a binary one. -/
def binary (value : Value) : Outcome (Option Binary64) :=
  match value with
  | .float x => .ok (some x)
  | .decimal d => .ok (some (.ofDecimal d))
  | .special d => .ok (some (.ofSpecial d))
  | value =>
    match value.wholeNumber?.map Binary64.ofInt with
    | some (.infinite _) => crashWith ⟨.overflow, "int too large to convert to float"⟩
    | number => .ok number

/-- A whole number to a base, with at least as many digits as the precision says. -/
def wholeText (place : Place) (base : Nat) (mark : String) (n : Int) : String :=
  let digits := Nat.toDigits base n.natAbs
  let digits := List.replicate (place.precision.getD 0 - digits.length) '0' ++ digits
  let digits := if place.letter = 'X' then digits.map Char.toUpper else digits
  let sign := signOf place (n < 0) ++ if place.alternate then mark else ""
  fill place true sign (String.ofList digits)

/-- One digit before the point, `places` behind it, and the power of ten. -/
def scientificText (places mantissa : Nat) (exponent : Int) : String :=
  let d := Binary64.rounded mantissa exponent (places + 1)
  let digits := d.digits ++ List.replicate (places + 1 - d.digits.length) '0'
  let d : Binary64.Digits := ⟨digits, if mantissa = 0 then 1 else d.point⟩
  d.scientific true

/-- `count` digits, in their places unless the number is very small or needs more. Zeros at the end
are kept on demand. -/
def generalText (count mantissa : Nat) (exponent : Int) (zeros : Bool) : String :=
  let count := max count 1
  let d := Binary64.rounded mantissa exponent count
  let kept := if zeros then List.replicate (count - d.digits.length) '0' else []
  let d : Binary64.Digits := ⟨d.digits ++ kept, d.point⟩
  if -4 < d.point ∧ d.point ≤ count then
    if d.digits.length ≤ d.point.toNat then (d.positional.dropEnd 2).toString else d.positional
  else d.scientific true

/-- The text of a number with a point, behind its digits unless it has one. -/
def withPoint (text : String) : String :=
  let cs := text.toList
  if cs.contains '.' then text
  else String.ofList (cs.takeWhile (· ≠ 'e') ++ '.' :: cs.dropWhile (· ≠ 'e'))

/-- A binary number in the manner of the letter. -/
def realText (place : Place) (x : Binary64) : String :=
  let precision := place.precision.getD 6
  let cased (s : String) : String := if place.letter.isUpper then s.toUpper else s
  match x with
  | .nan => fill place true (signOf place false) (cased "nan")
  | .infinite s => fill place true (signOf place s) (cased "inf")
  | .finite s m e =>
    let text :=
      match place.letter.toLower with
      | 'f' => Binary64.fixedText precision m e
      | 'e' => scientificText precision m e
      | _ => generalText precision m e place.alternate
    fill place true (signOf place s) (cased (if place.alternate then withPoint text else text))

/-- A text cut to the precision. -/
def cutText (place : Place) (text : String) : String :=
  fill place false "" (match place.precision with
    | some n => String.ofList (text.toList.take n)
    | none => text)

/-- The number of one character, given as such or by its number. It may be half of a pair. -/
def character (value : Value) : Outcome (Option Nat) :=
  match value with
  | .text s => .ok (match s.toList with | [c] => some c.toNat | _ => none)
  | value =>
    match value.wholeNumber? with
    | none => .ok none
    | some n =>
      if 0 ≤ n ∧ n < 0x110000 then .ok (some n.toNat)
      else crashWith ⟨.overflow, "%c arg not in range(0x110000)"⟩

/-- The failure of an argument that its letter cannot write. -/
def wrongType {α : Type} (place : Place) : Outcome α :=
  crashWith ⟨.badType, "%" ++ String.singleton place.letter ++ " format: wrong type"⟩

/-- One character by its number, between blanks. -/
def writeCharacter (place : Place) (value : Value) : Outcome (List Nat) := do
  match ← character value with
  | none => wrongType place
  | some point =>
    let narrower := { place with width := some (place.width.getD 0 - 1) }
    let blanks := Json.points (fill narrower false "" "")
    return if place.leftAligned then point :: blanks else blanks ++ [point]

def writeText (place : Place) (value : Value) : Outcome String :=
  let written {α : Type} (write : α → String) (read : Option α) : Outcome String :=
    match read with
    | some x => .ok (write x)
    | none => wrongType place
  match place.letter with
  | 's' => .ok (cutText place value.toText)
  | 'r' => .ok (cutText place value.shown)
  | 'a' => .ok (cutText place (asciiOnly value.shown))
  | 'd' | 'i' | 'u' => do
    let number ← wholePart value
    let count := (number.map fun n => digitCount n.natAbs).getD 0
    if Crash.digitLimit < count then crashWith (.tooManyDigits count)
    else written (wholeText place 10 "") number
  | 'o' => written (wholeText place 8 "0o") value.wholeNumber?
  | 'x' => written (wholeText place 16 "0x") value.wholeNumber?
  | 'X' => written (wholeText place 16 "0X") value.wholeNumber?
  | 'e' | 'E' | 'f' | 'F' | 'g' | 'G' => do written (realText place) (← binary value)
  | letter =>
    crashWith ⟨.badValue, "unsupported format character '" ++ String.singleton letter ++ "'"⟩

/-- An argument in its place. -/
def writeArgument (place : Place) (value : Value) : Outcome (List Nat) :=
  if place.letter = 'c' then writeCharacter place value
  else (writeText place value).map Json.points

/-! ## Messages -/

/-- Leaves out a letter that tells the size of the argument. -/
def withoutSize : List Char → List Char
  | 'h' :: cs | 'l' :: cs | 'L' :: cs => cs
  | cs => cs

/-- The place after a percent sign, the arguments that are left, and what follows. -/
def readPlace (arguments : Arguments) (cs : List Char) :
    Outcome (Place × Arguments × List Char) := do
  let (arguments, cs) ← callByKey arguments cs
  let (place, cs) := readFlags {} cs
  let (width, arguments, cs) ← readCount widthLimit arguments cs
  let place := { place with
    width := width.map Int.natAbs
    leftAligned := place.leftAligned || (width.map fun n => decide (n < 0)).getD false }
  let (place, arguments, cs) ← match cs with
    | '.' :: rest => do
      let (precision, arguments, rest) ← readCount precisionLimit arguments rest
      pure ({ place with precision := some ((precision.getD 0).toNat) }, arguments, rest)
    | cs => pure (place, arguments, cs)
  match withoutSize cs with
  | [] => crashWith ⟨.badValue, "incomplete format"⟩
  | letter :: rest => return ({ place with letter }, arguments, rest)

/-- The message with its arguments in their places. -/
def fillTemplate : (fuel : Nat) → Arguments → List Char → Outcome (List Nat × Arguments)
  | 0, arguments, _ => .ok ([], arguments)
  | _ + 1, arguments, [] => .ok ([], arguments)
  | fuel + 1, arguments, '%' :: '%' :: cs => do
    let (tail, arguments) ← fillTemplate fuel arguments cs
    return ('%'.toNat :: tail, arguments)
  | fuel + 1, arguments, '%' :: cs => do
    let (place, arguments, rest) ← readPlace arguments cs
    let (value, arguments) ← nextArgument arguments
    let text ← writeArgument place value
    let (tail, arguments) ← fillTemplate fuel arguments rest
    return (text ++ tail, arguments)
  | fuel + 1, arguments, c :: cs => do
    let (tail, arguments) ← fillTemplate fuel arguments cs
    return (c.toNat :: tail, arguments)

/-- The message that a template makes of its arguments, by the numbers of its characters. Unless
they have keys, all must find a place. -/
def formatMessage (template : String) (arguments : Arguments) : Outcome (List Nat) := do
  let cs := template.toList
  let (message, left) ← fillTemplate (cs.length + 1) arguments cs
  if left.named.isNone && !left.pending.isEmpty then
    crashWith ⟨.badType, "not all arguments converted during string formatting"⟩
  else return message

end RecordListing.Log
