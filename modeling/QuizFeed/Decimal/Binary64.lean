/-!
# Doubles as exact fractions

A finite double is a sign and `significand · 2 ^ exponent` with a significand below `2 ^ 53` and
an exponent from `-1074` to `971`. Arithmetic takes the exact result as a fraction and rounds it
once, to the nearest double and from a tie to the even significand; a result beyond the largest
double has no value here.
-/

namespace QuizFeed.Decimal

/-- A finite double: `significand · 2 ^ exponent`, negated when `negative`. -/
structure Binary64 where
  negative : Bool
  significand : Nat
  exponent : Int
  deriving DecidableEq, Repr

namespace Binary64

/-- The least exponent of a double. -/
def minExponent : Int := -1074

/-- The greatest exponent of a double. -/
def maxExponent : Int := 971

/-- Zero, with a sign. -/
def zero (negative : Bool) : Binary64 :=
  ⟨negative, 0, minExponent⟩

/-- Whether a double is one of the two zeros. -/
def isZero (double : Binary64) : Bool :=
  double.significand == 0

/-- The integer nearest to a fraction; a tie goes to the even neighbour. -/
def nearest (numerator denominator : Nat) : Nat :=
  let quotient := numerator / denominator
  let remainder := numerator % denominator
  if 2 * remainder > denominator ∨ (2 * remainder = denominator ∧ quotient % 2 = 1) then
    quotient + 1
  else quotient

/-- A fraction times a power of two, as a fraction. -/
def scale (numerator denominator : Nat) (exponent : Int) : Nat × Nat :=
  if 0 ≤ exponent then (numerator * Nat.pow 2 exponent.toNat, denominator)
  else (numerator, denominator * Nat.pow 2 (-exponent).toNat)

/-- The double nearest to a fraction, unless it lies beyond the largest double. -/
def ofFraction (negative : Bool) (numerator denominator : Nat) : Option Binary64 :=
  if numerator = 0 then some (zero negative)
  else
    let guess := max minExponent ((numerator.log2 : Int) - (denominator.log2 : Int) - 53)
    let coarse := scale numerator denominator (-guess)
    let exponent := if coarse.1 / coarse.2 < Nat.pow 2 53 then guess else guess + 1
    let fraction := scale numerator denominator (-exponent)
    let rounded := nearest fraction.1 fraction.2
    let (significand, exponent) :=
      if rounded = Nat.pow 2 53 then (Nat.pow 2 52, exponent + 1) else (rounded, exponent)
    if exponent > maxExponent then none else some ⟨negative, significand, exponent⟩

/-- The magnitude of a double as a fraction. -/
def fraction (double : Binary64) : Nat × Nat :=
  scale double.significand 1 double.exponent

/-- The rounded product of two doubles. -/
def mul (left right : Binary64) : Option Binary64 :=
  let (a, b) := left.fraction
  let (c, d) := right.fraction
  ofFraction (left.negative != right.negative) (a * c) (b * d)

/-- The rounded quotient of two doubles, the second of them not zero. -/
def div (left right : Binary64) : Option Binary64 :=
  let (a, b) := left.fraction
  let (c, d) := right.fraction
  ofFraction (left.negative != right.negative) (a * d) (b * c)

/-- The double nearest to a natural number. -/
def ofNat (number : Nat) : Option Binary64 :=
  ofFraction false number 1

end Binary64
end QuizFeed.Decimal
