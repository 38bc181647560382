import RecordListing.Number.Binary64
import RecordListing.Text.Pieces

/-!
# Numbers in digits

The shortest text of a binary number: the fewest digits that read back, of these the nearest. Beside
it the digits of a number that is rounded to a fixed count, all told or after the point.
-/

set_option autoImplicit false

namespace RecordListing

namespace Binary64

/-- Digits and the place of the point: `0.d₁d₂… * 10 ^ point`. -/
structure Digits where
  digits : List Char
  point : Int
deriving Repr

/-- Leaves out the zeros at the end, but keeps one digit. -/
def withoutTrailingZeros (digits : List Char) : List Char :=
  match (digits.reverse.dropWhile (· == '0')).reverse with
  | [] => ['0']
  | kept => kept

/-- The coefficient times `10 ^ exponent`, as digits. -/
def Digits.ofScaled (coefficient : Nat) (exponent : Int) : Digits :=
  let digits := Nat.toDigits 10 coefficient
  ⟨withoutTrailingZeros digits, exponent + digits.length⟩

/-- The least `point` with `num / den < 10 ^ point`, searched near the size of the number. -/
def pointOf (num den : Nat) : Int :=
  let estimate : Int := (((num.log2 : Int) - den.log2 - 1) * 30103).fdiv 100000
  let below (point : Int) : Bool :=
    if 0 ≤ point then num < den * tenTo point.toNat else num * tenTo (-point).toNat < den
  ([estimate, estimate + 1, estimate + 2, estimate + 3].find? below).getD (estimate + 3)

/-- The decimal of `count` digits inside the interval of the reals that round to the number, the
nearer one when two lie in it. The interval runs `below` and `above` quarters of a unit around
`4 * mantissa` quarters, `num / den` being a quarter of the unit. -/
def digitsWithin? (mantissa below above num den : Nat) (point : Int) (count : Nat) :
    Option Digits :=
  let power := point - count
  let a := num * tenTo (-power).toNat
  let b := den * tenTo power.toNat
  let closed := mantissa % 2 = 0
  let low := (4 * mantissa - below) * a
  let high := (4 * mantissa + above) * a
  let lower := 4 * mantissa * a / b
  let upper := lower + 1
  let lowerFits := low < lower * b ∨ (closed ∧ low = lower * b)
  let upperFits := upper * b < high ∨ (closed ∧ upper * b = high)
  let twice := 8 * mantissa * a
  let middle := (2 * lower + 1) * b
  let preferLower := twice < middle ∨ (twice = middle ∧ lower % 2 = 0)
  if lowerFits ∧ (¬ upperFits ∨ preferLower) then some (.ofScaled lower power)
  else if upperFits then some (.ofScaled upper power)
  else none

/-- The fewest digits that read back as the number. Seventeen always do. -/
def shortest (mantissa : Nat) (exponent : Int) : Digits :=
  if mantissa = 0 then ⟨['0'], 1⟩
  else
    let value := ratio mantissa exponent
    let point := pointOf value.1 value.2
    let below := if mantissa = twoTo 52 ∧ -1074 < exponent then 1 else 2
    let quarter := ratio 1 (exponent - 2)
    let counts := (List.range 17).map (· + 1)
    (counts.findSome? (digitsWithin? mantissa below 2 quarter.1 quarter.2 point)).getD
      (.ofScaled mantissa 0)

/-- The number rounded to `count` digits. -/
def rounded (mantissa : Nat) (exponent : Int) (count : Nat) : Digits :=
  if mantissa = 0 then ⟨['0'], 1⟩
  else
    let value := ratio mantissa exponent
    let power := pointOf value.1 value.2 - count
    .ofScaled
      (roundedQuotient (value.1 * tenTo (-power).toNat) (value.2 * tenTo power.toNat)) power

/-- All digits in their places, with at least one after the point. -/
def Digits.positional (d : Digits) : String :=
  let size := d.digits.length
  String.ofList <|
    if d.point ≤ 0 then '0' :: '.' :: List.replicate (-d.point).toNat '0' ++ d.digits
    else if size ≤ d.point.toNat then
      d.digits ++ List.replicate (d.point.toNat - size) '0' ++ ['.', '0']
    else d.digits.take d.point.toNat ++ '.' :: d.digits.drop d.point.toNat

/-- One digit before the point and a power of ten of at least two digits; `bare` leaves out a
fraction that is zero. -/
def Digits.scientific (d : Digits) (bare : Bool) : String :=
  let fraction := d.digits.drop 1
  let tail :=
    if fraction.isEmpty then (if bare then [] else ['.', '0']) else '.' :: fraction
  let power := d.point - 1
  String.ofList (d.digits.take 1 ++ tail) ++ (if power < 0 then "e-" else "e+") ++
    Text.padded 2 power.natAbs

def signText (negative : Bool) : String := if negative then "-" else ""

/-- The shortest text: positional from `0.0001` to below `10 ^ 16`. -/
def text : Binary64 → String
  | .nan => "nan"
  | .infinite s => signText s ++ "inf"
  | .finite s m e =>
    let d := shortest m e
    signText s ++ if -4 < d.point ∧ d.point ≤ 16 then d.positional else d.scientific true

/-- The decimal with `places` digits after the point that is nearest to a finite number. -/
def toFixed? (places : Nat) : Binary64 → Option Decimal
  | .finite s m e =>
    let value := ratio m e
    some ⟨s, roundedQuotient (value.1 * tenTo places) value.2, -places⟩
  | _ => none

/-- The size of a finite number with `places` digits after the point. -/
def fixedText (places mantissa : Nat) (exponent : Int) : String :=
  let value := ratio mantissa exponent
  let n := roundedQuotient (value.1 * tenTo places) value.2
  Nat.repr (n / tenTo places) ++
    if places = 0 then "" else "." ++ Text.padded places (n % tenTo places)

/-- Reads the names of the numbers that have no digits. -/
def ofName? : String → Option Binary64
  | "inf" => some (.infinite false)
  | "-inf" => some (.infinite true)
  | "nan" => some .nan
  | _ => none

/-- The number that a decimal without digits is. -/
def ofSpecial : SpecialDecimal → Binary64
  | .infinite negative => .infinite negative
  | .nan => .nan

/-- Reads a number written in any form of a literal, or one of the names. -/
def ofText? (s : String) : Option Binary64 :=
  (ofName? s).orElse fun _ => (Decimal.ofLiteral? s.toList).map ofDecimal

end Binary64

end RecordListing
