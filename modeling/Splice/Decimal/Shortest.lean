import Splice.Decimal.Binary64

/-! # Shortest decimal text

A number of the 64-bit binary format is written with the fewest digits that read back as it. Of
several such texts the nearest to the number is taken, and of two equally near the one whose last
digit is even.
-/

namespace Splice.Decimal

/-- The decimal `0.d₁d₂…dₙ * 10 ^ point`, given by its digits as one whole number. -/
structure Digits where
  digits : List Char
  point : Int
  deriving DecidableEq, Repr

namespace Binary64

/-- Whether the fraction reads back as the number: it lies within half a step of it, a step being
half as wide below a power of two. The ends count when the significand is even. -/
def readsBack (x : Binary64) (numerator denominator : Nat) : Bool :=
  let power := powerOfTwo (x.exponent - 2)
  let scaled := numerator * power.2
  let unit := denominator * power.1
  let narrow := x.significand = Nat.pow 2 52 ∧ leastExponent < x.exponent
  let low := (4 * x.significand - if narrow then 1 else 2) * unit
  let high := (4 * x.significand + 2) * unit
  if x.significand % 2 = 0 then low ≤ scaled && scaled ≤ high
  else low < scaled && scaled < high

end Binary64

/-- A power of ten with either sign of the exponent, as a fraction. -/
def powerOfTen (exponent : Int) : Nat × Nat :=
  if 0 ≤ exponent then (Nat.pow 10 exponent.toNat, 1) else (1, Nat.pow 10 (-exponent).toNat)

/-- The least power of ten above a fraction other than zero, searched upwards for at most `fuel`
steps. -/
def decimalOrder (numerator denominator : Nat) : Nat → Int → Int
  | 0, candidate => candidate
  | fuel + 1, candidate =>
    let power := powerOfTen candidate
    if numerator * power.2 < denominator * power.1 then candidate
    else decimalOrder numerator denominator fuel (candidate + 1)

/-- The multiple of a power of ten that reads back as the number, if one of the two multiples
around the number does. -/
def onGrid? (x : Binary64) (step : Int) : Option Nat :=
  let power := powerOfTen step
  let numerator := x.numerator * power.2
  let denominator := x.denominator * power.1
  let below := numerator / denominator
  let above := below + 1
  let belowReads := x.readsBack (below * power.1) power.2
  let aboveReads := x.readsBack (above * power.1) power.2
  let twice := 2 * (numerator % denominator)
  if belowReads && aboveReads then
    if twice < denominator then some below
    else if denominator < twice then some above
    else some (if below % 2 = 0 then below else above)
  else if belowReads then some below
  else if aboveReads then some above
  else none

/-- The first grid with a hit, the grids getting finer by one digit each time. -/
def shortestFrom (x : Binary64) : Nat → Int → Nat × Int
  | 0, step => (x.numerator * (powerOfTen step).2 / (x.denominator * (powerOfTen step).1), step)
  | fuel + 1, step =>
    match onGrid? x step with
    | some multiple => (multiple, step)
    | none => shortestFrom x fuel (step - 1)

def significantDigits (multiple : Nat) : List Char :=
  ((Nat.toDigits 10 multiple).reverse.dropWhile (· == '0')).reverse

/-- The fewest digits that read back as a number other than zero. -/
def shortestDigits (x : Binary64) : Digits :=
  let order := decimalOrder x.numerator x.denominator 640 (-324)
  let (multiple, step) := shortestFrom x 17 (order - 1)
  ⟨significantDigits multiple, step + (Nat.toDigits 10 multiple).length⟩

/-- How a shortest decimal is laid out: positional notation for the points between `leastPoint`
and `greatestPoint`, scientific notation with a signed exponent elsewhere. -/
structure Layout where
  leastPoint : Int
  greatestPoint : Int

/-- Numbers from 1e-5 up to, not including, 1e16 are written positionally. -/
def Layout.plain : Layout := ⟨-4, 16⟩

/-- Writes digits in positional notation, with at least one digit on each side of the point. -/
def positional (d : Digits) : List Char :=
  if d.point ≤ 0 then
    ['0', '.'] ++ List.replicate (-d.point).toNat '0' ++ d.digits
  else
    let width := d.point.toNat
    let whole := d.digits.take width ++ List.replicate (width - d.digits.length) '0'
    let fraction := d.digits.drop width
    whole ++ ['.'] ++ if fraction.isEmpty then ['0'] else fraction

/-- Writes digits in scientific notation, with one digit before the point. -/
def scientific (d : Digits) : List Char :=
  let exponent := d.point - 1
  let mantissa := match d.digits with
    | first :: second :: rest => first :: '.' :: second :: rest
    | digits => digits
  mantissa ++ ['e', if exponent < 0 then '-' else '+'] ++ Nat.toDigits 10 exponent.natAbs

def Layout.text (layout : Layout) (negative : Bool) (x : Binary64) : String :=
  let magnitude :=
    if x.significand = 0 then ['0', '.', '0']
    else
      let d := shortestDigits x
      if layout.leastPoint ≤ d.point ∧ d.point ≤ layout.greatestPoint then positional d
      else scientific d
  String.ofList (if negative then '-' :: magnitude else magnitude)

end Splice.Decimal
