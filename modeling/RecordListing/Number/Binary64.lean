import RecordListing.Number.Decimal

/-!
# Binary floating point

The numbers of 64-bit binary floating point, each finite one as a whole number times a power of
two. Every number is kept in its only form: the exponent is the least one possible that leaves the
mantissa below `2 ^ 53`, and no less than `-1074`.
-/

set_option autoImplicit false

namespace RecordListing

/-- The quotient rounded to the nearest whole number, a half to the even neighbour. -/
def roundedQuotient (num den : Nat) : Nat :=
  let quotient := num / den
  let rest := 2 * (num % den)
  if den < rest ∨ (rest = den ∧ quotient % 2 = 1) then quotient + 1 else quotient

inductive Binary64
  | finite (negative : Bool) (mantissa : Nat) (exponent : Int)
  | infinite (negative : Bool)
  | nan
deriving DecidableEq, Repr

namespace Binary64

def isFinite : Binary64 → Bool
  | .finite _ _ _ => true
  | _ => false

def zero (negative : Bool) : Binary64 := .finite negative 0 (-1074)

/-- Numerator and denominator of `num / den / 2 ^ exponent`. -/
def scaled (num den : Nat) (exponent : Int) : Nat × Nat :=
  if 0 ≤ exponent then (num, den * twoTo exponent.toNat) else (num * twoTo (-exponent).toNat, den)

/-- The number nearest to `num / den`, of two the one with the even mantissa. -/
def ofRatio (negative : Bool) (num den : Nat) : Binary64 :=
  if num = 0 then zero negative
  else
    let guess : Int := (num.log2 : Int) - den.log2 - 53
    let first := scaled num den guess
    let exponent := max (if twoTo 53 ≤ first.1 / first.2 then guess + 1 else guess) (-1074)
    let ratio := scaled num den exponent
    let mantissa := roundedQuotient ratio.1 ratio.2
    let carried := mantissa = twoTo 53
    if 971 < exponent ∨ (carried ∧ 971 ≤ exponent) then .infinite negative
    else if carried then .finite negative (twoTo 52) (exponent + 1)
    else .finite negative mantissa exponent

def ofInt (n : Int) : Binary64 := ofRatio (n < 0) n.natAbs 1

/-- The number nearest to a decimal; those of 10 ^ 310 and beyond are infinite, those below
10 ^ -330 are zero. -/
def ofDecimal (d : Decimal) : Binary64 :=
  let size := d.exponent + digitCount d.digits
  if d.digits = 0 ∨ size < -330 then zero d.negative
  else if 310 < size then .infinite d.negative
  else if 0 ≤ d.exponent then ofRatio d.negative (d.digits * tenTo d.exponent.toNat) 1
  else ofRatio d.negative d.digits (tenTo (-d.exponent).toNat)

/-- The mantissa with its sign. -/
def signedMantissa (negative : Bool) (mantissa : Nat) : Int :=
  if negative then -mantissa else mantissa

/-- Compares `m * 2 ^ e` with `m' * 2 ^ e'`. -/
def compareScaled (m e m' e' : Int) : Ordering :=
  let low := min e e'
  Ord.compare (m * twoTo (e - low).toNat) (m' * twoTo (e' - low).toNat)

/-- Order by value; what is no number comes before all numbers. -/
def compare : Binary64 → Binary64 → Ordering
  | .nan, .nan => .eq
  | .nan, _ => .lt
  | _, .nan => .gt
  | .infinite s, .infinite t => if s = t then .eq else if s then .lt else .gt
  | .infinite s, _ => if s then .lt else .gt
  | _, .infinite t => if t then .gt else .lt
  | .finite s m e, .finite s' m' e' =>
    compareScaled (signedMantissa s m) e (signedMantissa s' m') e'

/-- Order by value against a whole number. -/
def compareInt : Binary64 → Int → Ordering
  | .nan, _ => .lt
  | .infinite s, _ => if s then .lt else .gt
  | .finite s m e, n => compareScaled (signedMantissa s m) e n 0

/-- The whole number that has this value. -/
def toInt? : Binary64 → Option Int
  | .finite s m e =>
    if 0 ≤ e then some (signedMantissa s m * twoTo e.toNat)
    else if m = 0 then some 0
    else if m % twoTo (-e).toNat = 0 then some (signedMantissa s m / twoTo (-e).toNat)
    else none
  | _ => none

/-- Numerator and denominator of the size of a finite number. -/
def ratio (mantissa : Nat) (exponent : Int) : Nat × Nat :=
  if 0 ≤ exponent then (mantissa * twoTo exponent.toNat, 1) else (mantissa, twoTo (-exponent).toNat)

end Binary64

end RecordListing
