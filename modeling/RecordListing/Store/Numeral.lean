import RecordListing.Number.Wide
import RecordListing.Number.Shortest

/-!
# Numerals of real numbers

How the database reads a real number from digits and writes one with fifteen of them. Both ways go
through wide arithmetic, so that the last digit may differ from the nearest one. This is SQLite
before release 3.43; later releases calculate with pairs of binary numbers, and may read and write
another last digit.
-/

set_option autoImplicit false

namespace RecordListing

/-- A number in digits: what stands before the point, what stands behind it, and a power of ten. -/
structure Numeral where
  negative : Bool
  whole : List Nat
  fraction : List Nat
  power : Int
  /-- Whether there is neither a point nor a power. -/
  plain : Bool

namespace Numeral

open Text

/-- Reads a numeral. -/
def ofChars? (cs : List Char) : Option Numeral :=
  let sign := takeSign cs
  match takeCoefficient sign.2 with
  | none => none
  | some (whole, fraction, rest) =>
    (readExponent? rest).map fun power =>
      ⟨sign.1, whole, fraction, power, sign.2.length = whole.length⟩

/-- The whole number of a plain numeral. -/
def toInt (numeral : Numeral) : Int :=
  let size : Int := ofDigitValues numeral.whole
  if numeral.negative then -size else size

/-! ## Reading -/

/-- No further digit is taken once the significand has reached this. -/
def significandLimit : Nat := 922337203685477579

/-- Takes digits before the point; how many are left out is counted. -/
def takeWhole : (significand : Nat) → List Nat → Nat × Nat
  | significand, [] => (significand, 0)
  | significand, d :: ds =>
    let next := significand * 10 + d
    if significandLimit ≤ next then (next, ds.length) else takeWhole next ds

/-- Takes digits behind the point; how many are taken is counted. -/
def takeFraction : (significand : Nat) → List Nat → Nat × Nat
  | significand, [] => (significand, 0)
  | significand, d :: ds =>
    if significand < significandLimit then
      let (all, count) := takeFraction (significand * 10 + d) ds
      (all, count + 1)
    else (significand, 0)

/-- Moves powers of ten into the significand while it stays below 2 ^ 63. -/
def grow : (fuel : Nat) → (significand power : Nat) → Nat × Nat
  | fuel + 1, significand, power + 1 =>
    if 922337203685477580 ≤ significand then (significand, power + 1)
    else grow fuel (significand * 10) power
  | _, significand, power => (significand, power)

/-- Takes powers of ten out of the significand. -/
def shrink : (fuel : Nat) → (significand power : Nat) → Nat × Nat
  | fuel + 1, significand, power + 1 =>
    if significand % 10 = 0 then shrink fuel (significand / 10) power else (significand, power + 1)
  | _, significand, power => (significand, power)

/-- The greatest power of ten that is taken in one step. -/
def stepLimit : Nat := 307

/-- The power of ten that is taken first when one step is not enough. -/
def firstStep : Wide := .constant 1 308

/-- The significand times a power of ten. -/
def enlarged (negative : Bool) (significand power : Nat) : Binary64 :=
  let size := Wide.ofNat significand
  if power ≤ stepLimit then (size.mul (.tenPower power)).toBinary negative
  else if power < 342 then
    match (size.mul (.tenPower (power - 308))).toBinary negative with
    | .finite s m e =>
      let ratio := Binary64.ratio (m * firstStep.mantissa) (e + firstStep.exponent)
      .ofRatio s ratio.1 ratio.2
    | x => x
  else .infinite negative

/-- The significand divided by a power of ten. -/
def reduced (negative : Bool) (significand power : Nat) : Binary64 :=
  let size := Wide.ofNat significand
  if power ≤ stepLimit then (size.div (.tenPower power)).toBinary negative
  else if power < 342 then
    match (size.div (.tenPower (power - 308))).toBinary negative with
    | .finite s m e =>
      let num := Binary64.ratio m e
      let den := Binary64.ratio firstStep.mantissa firstStep.exponent
      .ofRatio s (num.1 * den.2) (num.2 * den.1)
    | x => x
  else .zero negative

/-- The real number that a numeral is read as, by the arithmetic of SQLite before release 3.43. -/
def toReal (numeral : Numeral) : Binary64 :=
  let (begun, dropped) := takeWhole 0 numeral.whole
  let (significand, taken) := takeFraction begun numeral.fraction
  let power := numeral.power + dropped - taken
  if significand = 0 then .zero numeral.negative
  else if 0 ≤ power then
    let (significand, power) := grow 20 significand power.toNat
    enlarged numeral.negative significand power
  else
    let (significand, power) := shrink 20 significand (-power).toNat
    reduced numeral.negative significand power

end Numeral

namespace Binary64

/-! ## Writing -/

/-- How many digits are written. -/
def digitCountWritten : Nat := 15

/-- Half a unit of the last digit behind a first digit that is a unit. -/
def halfUnit : Wide :=
  .ofBinary (((Wide.constant 5 (-5)).mul (.constant 1 (-10))).toBinary false)

/-- Multiplies `scale` by ten to the `power` while the product is no more than the value. -/
def climb (value : Wide) (power : Nat) :
    (fuel : Nat) → (scale : Wide) → (reached : Nat) → Wide × Nat
  | 0, scale, reached => (scale, reached)
  | fuel + 1, scale, reached =>
    let next := scale.mul (.constant 1 power)
    if next.le value then climb value power fuel next (reached + power) else (scale, reached)

/-- Multiplies the value by ten to the `power` while it is less than the bound. -/
def lift (bound : Wide) (power : Nat) : (fuel : Nat) → (value : Wide) → (reached : Int) → Wide × Int
  | 0, value, reached => (value, reached)
  | fuel + 1, value, reached =>
    if bound.le value then (value, reached)
    else lift bound power fuel (value.mul (.ofNat (tenTo power))) (reached - power)

/-- A size as a number from one to below ten, and the power of ten that it is multiplied by. -/
def normalized (value : Wide) : Wide × Int :=
  if value.mantissa = 0 then (value, 0)
  else
    let (scale, power) := climb value 100 4 (.ofNat 1) 0
    let (scale, power) := climb value 10 10 scale power
    let (scale, power) := climb value 1 10 scale power
    let (value, power) := lift (.constant 1 (-8)) 8 50 (value.div scale) power
    lift (.ofNat 1) 1 10 value power

/-- The digits of a number below ten, one by one. -/
def digitsOf : (count : Nat) → Wide → List Char
  | 0, _ => []
  | count + 1, value =>
    let digit := value.floor
    Nat.digitChar digit :: digitsOf count ((value.sub (.ofNat digit)).mul (.ofNat 10))

/-- Fifteen digits of a size, rounded by adding half a unit and cutting off. -/
def fifteen (mantissa : Nat) (exponent : Int) : Digits :=
  let (value, power) := normalized ⟨mantissa, exponent⟩
  let rounded := value.add halfUnit
  let (rounded, power) :=
    if (Wide.ofNat 10).le rounded then (rounded.mul (.constant 1 (-1)), power + 1)
    else (rounded, power)
  ⟨withoutTrailingZeros (digitsOf digitCountWritten rounded), power + 1⟩

/-- The text that the database gives a real number: positional from `0.0001` to below `10 ^ 15`. A
number halfway between two texts may get the lower one; SQLite from release 3.43 on gives it the
upper one. -/
def storedText : Binary64 → String
  | .nan => "NaN"
  | .infinite s => signText s ++ "Inf"
  | .finite s m e =>
    let d := fifteen m e
    signText (s && m != 0) ++
      if -4 < d.point ∧ d.point ≤ digitCountWritten then d.positional else d.scientific false

end Binary64

end RecordListing
