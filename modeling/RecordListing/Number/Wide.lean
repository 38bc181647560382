import RecordListing.Number.Binary64

/-!
# Wide floating point

Numbers of 64 binary digits, each a whole number times a power of two. Arithmetic on them rounds to
the nearest such number, a half to the even neighbour. They carry the steps between a binary number
and its numeral where these are not exact.
-/

set_option autoImplicit false

namespace RecordListing

structure Wide where
  mantissa : Nat
  exponent : Int
deriving DecidableEq, Repr

namespace Wide

/-- The number nearest to `num / den * 2 ^ exponent`. -/
def ofRatio (num den : Nat) (exponent : Int) : Wide :=
  if num = 0 then ⟨0, 0⟩
  else
    let guess : Int := (num.log2 : Int) - den.log2 - 64
    let first := Binary64.scaled num den guess
    let shift := if twoTo 64 ≤ first.1 / first.2 then guess + 1 else guess
    let ratio := Binary64.scaled num den shift
    ⟨roundedQuotient ratio.1 ratio.2, exponent + shift⟩

def ofNat (n : Nat) : Wide := ofRatio n 1 0

/-- The size of a binary number; infinite ones and what is no number have none. -/
def ofBinary : Binary64 → Wide
  | .finite _ m e => ⟨m, e⟩
  | _ => ⟨0, 0⟩

/-- The size of the binary number nearest to a decimal. -/
def constant (digits : Nat) (power : Int) : Wide := ofBinary (.ofDecimal ⟨false, digits, power⟩)

/-- The binary number nearest to it. -/
def toBinary (negative : Bool) (a : Wide) : Binary64 :=
  let ratio := Binary64.ratio a.mantissa a.exponent
  .ofRatio negative ratio.1 ratio.2

/-- The mantissas of two numbers under their lesser exponent, which stands behind them. -/
def aligned (a b : Wide) : Nat × Nat × Int :=
  let low := min a.exponent b.exponent
  (a.mantissa * twoTo (a.exponent - low).toNat, b.mantissa * twoTo (b.exponent - low).toNat, low)

def le (a b : Wide) : Bool :=
  let (m, n, _) := aligned a b
  m ≤ n

def add (a b : Wide) : Wide :=
  let (m, n, e) := aligned a b
  ofRatio (m + n) 1 e

/-- The difference; zero if the second number is the greater one. -/
def sub (a b : Wide) : Wide :=
  let (m, n, e) := aligned a b
  ofRatio (m - n) 1 e

def mul (a b : Wide) : Wide := ofRatio (a.mantissa * b.mantissa) 1 (a.exponent + b.exponent)

def div (a b : Wide) : Wide := ofRatio a.mantissa b.mantissa (a.exponent - b.exponent)

/-- The whole part. -/
def floor (a : Wide) : Nat :=
  let ratio := Binary64.ratio a.mantissa a.exponent
  ratio.1 / ratio.2

/-- The product of `result` with the `n`-th power of `base`, by repeated squaring. -/
def timesPower (base result : Wide) (n : Nat) : Wide :=
  let result := if n % 2 = 1 then result.mul base else result
  if n / 2 = 0 then result else timesPower (base.mul base) result (n / 2)
termination_by n
decreasing_by omega

/-- A power of ten. -/
def tenPower (n : Nat) : Wide := timesPower (ofNat 10) (ofNat 1) n

end Wide

end RecordListing
