/-! # Binary floating point with 53 bits

A finite nonnegative number of the 64-bit binary format is a whole significand times a power of
two. Arithmetic is done on exact fractions and rounded once, to the nearest number of the format;
of two nearest numbers the one with the even significand is taken.
-/

namespace Splice.Decimal

/-- The number `significand * 2 ^ exponent`. -/
structure Binary64 where
  significand : Nat
  exponent : Int
  deriving DecidableEq, Repr

namespace Binary64

/-- The smallest exponent of the format, which zero and the subnormal numbers have. -/
def leastExponent : Int := -1074

def greatestExponent : Int := 971

/-- A power of two with either sign of the exponent, as a fraction. -/
def powerOfTwo (exponent : Int) : Nat × Nat :=
  if 0 ≤ exponent then (Nat.pow 2 exponent.toNat, 1) else (1, Nat.pow 2 (-exponent).toNat)

def numerator (x : Binary64) : Nat :=
  x.significand * (powerOfTwo x.exponent).1

def denominator (x : Binary64) : Nat :=
  (powerOfTwo x.exponent).2

/-- A fraction rounded to a whole number, a half going to the even neighbour. -/
def roundHalfEven (numerator denominator : Nat) : Nat :=
  let whole := numerator / denominator
  let twice := 2 * (numerator % denominator)
  if twice < denominator then whole
  else if denominator < twice then whole + 1
  else whole + whole % 2

/-- The exponent of the largest power of two that is at most the fraction. -/
def binaryOrder (numerator denominator : Nat) : Int :=
  let guess : Int := (numerator.log2 : Int) - denominator.log2
  let power := powerOfTwo guess
  if denominator * power.1 ≤ numerator * power.2 then guess else guess - 1

/-- The number of the format nearest to a fraction, if the fraction is not beyond its range. -/
def nearest? (numerator denominator : Nat) : Option Binary64 :=
  if numerator = 0 then some ⟨0, leastExponent⟩
  else
    let exponent := max (binaryOrder numerator denominator - 52) leastExponent
    let power := powerOfTwo exponent
    let significand := roundHalfEven (numerator * power.2) (denominator * power.1)
    let result : Binary64 :=
      if significand = Nat.pow 2 53 then ⟨Nat.pow 2 52, exponent + 1⟩ else ⟨significand, exponent⟩
    if greatestExponent < result.exponent then none else some result

/-- The rounded product. -/
def mul? (x y : Binary64) : Option Binary64 :=
  nearest? (x.numerator * y.numerator) (x.denominator * y.denominator)

/-- The rounded quotient by a number other than zero. -/
def div? (x y : Binary64) : Option Binary64 :=
  nearest? (x.numerator * y.denominator) (x.denominator * y.numerator)

end Binary64

end Splice.Decimal
