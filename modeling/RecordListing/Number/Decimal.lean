import RecordListing.Number.Power
import RecordListing.Text.Digit
import RecordListing.Text.Blank

/-!
# Decimal numbers

An exact decimal is a sign, a whole coefficient and a power of ten; `1.50` and `1.5` are two
decimals of one value. A literal is written without blanks, group separators or names: an optional
sign, digits with an optional point, and an optional power of ten.
-/

set_option autoImplicit false

namespace RecordListing

open Text

structure Decimal where
  negative : Bool
  /-- The coefficient. -/
  digits : Nat
  /-- The power of ten that the coefficient is multiplied by. -/
  exponent : Int
deriving DecidableEq, Repr

/-- How many digits a coefficient is written with. -/
def digitCount (n : Nat) : Nat := (Nat.toDigits 10 n).length

/-- An optional sign: whether it is a minus, and what follows. -/
def takeSign : List Char → Bool × List Char
  | '-' :: cs => (true, cs)
  | '+' :: cs => (false, cs)
  | cs => (false, cs)

/-- Digits with an optional point: those before it, those after it, and what follows. There is at
least one digit. -/
def takeCoefficient (cs : List Char) : Option (List Nat × List Nat × List Char) :=
  let whole := takeDigits cs
  match whole.2 with
  | '.' :: tail =>
    let fraction := takeDigits tail
    if whole.1.isEmpty && fraction.1.isEmpty then none
    else some (whole.1, fraction.1, fraction.2)
  | rest => if whole.1.isEmpty then none else some (whole.1, [], rest)

/-- The power of ten that ends a literal; zero when it is left out. -/
def readExponent? : List Char → Option Int
  | [] => some 0
  | c :: cs =>
    if c = 'e' ∨ c = 'E' then
      let sign := takeSign cs
      let power := takeDigits sign.2
      if power.1.isEmpty || !power.2.isEmpty then none
      else some (if sign.1 then -(ofDigitValues power.1 : Int) else ofDigitValues power.1)
    else none

namespace Decimal

/-- The decimal that a literal denotes, digit for digit. -/
def ofLiteral? (cs : List Char) : Option Decimal :=
  let sign := takeSign cs
  match takeCoefficient sign.2 with
  | none => none
  | some (whole, fraction, rest) =>
    (readExponent? rest).map fun power =>
      ⟨sign.1, ofDigitValues (whole ++ fraction), power - fraction.length⟩

/-- The largest and the smallest power of ten that arithmetic on decimals can hold. -/
def inRange (d : Decimal) : Bool :=
  d.exponent + digitCount d.digits - 1 ≤ 999999999999999999 && -1999999999999999997 ≤ d.exponent

/-- Whether the value has no fractional part. -/
def isWhole (d : Decimal) : Bool :=
  let places := (-d.exponent).toNat
  places == 0 || d.digits == 0 || (places < digitCount d.digits && d.digits % tenTo places == 0)

/-- The value without its fractional part. -/
def truncate (d : Decimal) : Int :=
  let size :=
    if 0 ≤ d.exponent then d.digits * tenTo d.exponent.toNat
    else if d.digits == 0 then 0
    else d.digits / tenTo (-d.exponent).toNat
  if d.negative then -size else size

/-- Whether the value is one. -/
def isOne (d : Decimal) : Bool :=
  !d.negative && d.isWhole && digitCount d.digits + d.exponent == 1 && d.truncate == 1

/-- The text of a decimal: positional while the exponent is not positive and the first digit is
less than seven places behind the point, else with the power of ten after an `E`. -/
def text (d : Decimal) : String :=
  let digits := Nat.toDigits 10 d.digits
  let leading := d.exponent + digits.length
  let point := if d.exponent ≤ 0 ∧ -6 < leading then leading else 1
  let number :=
    if point ≤ 0 then '0' :: '.' :: List.replicate (-point).toNat '0' ++ digits
    else if digits.length ≤ point.toNat then
      digits ++ List.replicate (point.toNat - digits.length) '0'
    else digits.take point.toNat ++ '.' :: digits.drop point.toNat
  let power :=
    if leading = point then ""
    else (if point ≤ leading then "E+" else "E-") ++ Nat.repr (leading - point).natAbs
  (if d.negative then "-" else "") ++ String.ofList number ++ power

end Decimal

/-- The decimals that have no digits. -/
inductive SpecialDecimal
  | infinite (negative : Bool)
  | nan
deriving DecidableEq, Repr

namespace SpecialDecimal

def text : SpecialDecimal → String
  | .infinite negative => if negative then "-Infinity" else "Infinity"
  | .nan => "NaN"

def all : List SpecialDecimal := [.infinite false, .infinite true, .nan]

def ofText? (s : String) : Option SpecialDecimal := all.find? (·.text = s)

end SpecialDecimal

/-! ## Number literals -/

inductive LiteralFault
  /-- The text is no literal, or not a whole number where one is asked for. -/
  | malformed
  /-- The power of ten is beyond what decimals hold. -/
  | beyondRange
deriving DecidableEq, Repr

/-- Reads the literal in a text, blanks around it aside; a whole number may be asked for. -/
def readNumber (s : String) (whole : Bool) : Except LiteralFault Decimal :=
  match Decimal.ofLiteral? (trimmed s.toList) with
  | none => .error .malformed
  | some d =>
    if !d.inRange then .error .beyondRange
    else if whole && !d.isWhole then .error .malformed
    else .ok d

end RecordListing
