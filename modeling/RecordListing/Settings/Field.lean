import RecordListing.Failure
import RecordListing.Query.Page

/-!
# Settings fields

A setting is given as a value or, by the name of an environment variable, as text. Each kind of
setting has its own reader; what cannot be read is a fault with a code and a message.
-/

set_option autoImplicit false

namespace RecordListing

open Text

inductive SettingFault
  | missing
  | notText
  | notABool
  | unknownBool
  | notANumber
  | unknownNumber
  | hugeNumber
  | fractionalNumber
  | infiniteNumber
  /-- The value breaks a rule of this program. -/
  | refused (reason : String)
deriving DecidableEq, Repr

namespace SettingFault

def code : SettingFault → String
  | .missing => "missing"
  | .notText => "string_type"
  | .notABool => "bool_type"
  | .unknownBool => "bool_parsing"
  | .notANumber => "int_type"
  | .unknownNumber => "int_parsing"
  | .hugeNumber => "int_parsing_size"
  | .fractionalNumber => "int_from_float"
  | .infiniteNumber => "finite_number"
  | .refused _ => "value_error"

def message : SettingFault → String
  | .missing => "Field required"
  | .notText => "Input should be a valid string"
  | .notABool => "Input should be a valid boolean"
  | .unknownBool => "Input should be a valid boolean, unable to interpret input"
  | .notANumber => "Input should be a valid integer"
  | .unknownNumber => "Input should be a valid integer, unable to parse string as an integer"
  | .hugeNumber => "Unable to parse input string as an integer, exceeded maximum size"
  | .fractionalNumber => "Input should be a valid integer, got a number with a fractional part"
  | .infiniteNumber => "Input should be a finite number"
  | .refused reason => "Value error, " ++ reason

end SettingFault

/-- A fault and the field it was found in; rules about several fields belong to none. -/
structure LocatedFault where
  field : Option String
  fault : SettingFault
deriving DecidableEq, Repr

/-! ## Switches -/

/-- A switch in words, in any case of letters. -/
def readSwitch? (s : String) : Option Bool :=
  let word := s.toLower
  if ["true", "t", "yes", "y", "on", "1"].contains word then some true
  else if ["false", "f", "no", "n", "off", "0"].contains word then some false
  else none

/-- Whether a whole number has at most 64 bits. -/
def isShort (n : Int) : Bool := -0x8000000000000000 ≤ n && n < 0x8000000000000000

/-- A switch given as a whole number of at most 64 bits. -/
def switchOfInt (n : Int) : Except SettingFault Bool :=
  if n = 0 then .ok false
  else if n = 1 then .ok true
  else if isShort n then .error .unknownBool
  else .error .notABool

/-- A switch given as a binary number. -/
def switchOfReal (x : Binary64) : Except SettingFault Bool :=
  match x.toInt? with
  | some n => if isShort n && isShort (n - 1) then switchOfInt n else .error .notABool
  | none => .error .notABool

def readBool (value : Value) : Except SettingFault Bool :=
  match value with
  | .bool b => .ok b
  | .text s =>
    match readSwitch? s with
    | some b => .ok b
    | none => .error .unknownBool
  | .int n => switchOfInt n
  | .float x => switchOfReal x
  | .decimal d => switchOfReal (.ofDecimal d)
  | _ => .error .notABool

/-! ## Whole numbers -/

/-- Leaves out zeros in front, with underscores among them; the last one stays if no digit
follows. -/
def withoutLeadingZeros : (previous : Char) → List Char → Option (List Char)
  | previous, [] => some [previous]
  | previous, c :: cs =>
    if c = '0' ∨ c = '_' then withoutLeadingZeros c cs
    else if isPlainDigit c then some (c :: cs)
    else if c = '.' then some (previous :: c :: cs)
    else none

/-- A numeral that begins with a digit or a minus, without zeros in front. -/
def trimmedNumeral? : List Char → Option (List Char)
  | '0' :: cs => withoutLeadingZeros '0' cs
  | c :: cs => if isPlainDigit c ∨ c = '-' then some (c :: cs) else none
  | [] => none

/-- Leaves out a point with zeros behind it. -/
def withoutZeroFraction (cs : List Char) : List Char :=
  match cutOnce '.' cs with
  | some (whole, fraction) =>
    if !fraction.isEmpty && fraction.all (· == '0') then whole else cs
  | none => cs

/-- Leaves out underscores, each of which must stand between other characters. -/
def withoutUnderscores? (cs : List Char) : Option (List Char) :=
  let groups := cutAt '_' cs
  if groups.any (·.isEmpty) then none else some groups.flatten

/-- A whole number in digits with a minus if any; no zero stands in front of another digit. -/
def readPlainInt (cs : List Char) : Except SettingFault Int :=
  let digits := cs.dropWhile (· == '-')
  let negative := cs.head? = some '-'
  if digits.isEmpty || !digits.all isPlainDigit || digits.length + 1 < cs.length ||
      (digits.head? = some '0' && digits.length ≠ 1) then .error .unknownNumber
  else if Crash.digitLimit < digits.length then .error .hugeNumber
  else
    let size := ofDigitValues (takeDigits digits).1
    .ok (if negative then -(size : Int) else size)

/-- A whole number in digits, with a fraction of zeros if any. -/
def readWhole (s : String) : Except SettingFault Int :=
  let cs := stripped isSpace s.toList
  let unsigned? :=
    match cs with
    | '+' :: '-' :: _ => none
    | '+' :: cs => some cs
    | cs => some cs
  match ((unsigned?.bind trimmedNumeral?).map withoutZeroFraction).bind withoutUnderscores? with
  | some cs => readPlainInt cs
  | none => .error .unknownNumber

def readInt (value : Value) : Except SettingFault Int :=
  match value with
  | .int n => .ok n
  | .bool b => .ok (if b then 1 else 0)
  | .text s => readWhole s
  | .float x =>
    match x with
    | .finite .. =>
      match x.toInt? with
      | some n => if isShort n && isShort (n - 1) then .ok n else .error .hugeNumber
      | none => .error .fractionalNumber
    | _ => .error .infiniteNumber
  | .decimal d => if d.isWhole then .ok d.truncate else .error .fractionalNumber
  | .special _ => .error .infiniteNumber
  | _ => .error .notANumber

def readText (value : Value) : Except SettingFault String :=
  match value with
  | .text s => .ok s
  | .member m => .ok m.value
  | _ => .error .notText

end RecordListing
