import QuizFeed.Decimal.Binary64

/-!
# The fewest digits that read back

Every real number between the midpoints to the two neighbouring doubles rounds to a double; the
midpoints themselves do when the significand is even. `Binary64.shortest` takes the coarsest
decimal grid, of one to seventeen digits, on which a neighbour of the exact value lies in that
interval, and of two such neighbours the nearer one.
-/

namespace QuizFeed.Decimal

/-- Decimal digits with the exponent of the first one: `[1, 2, 5]` and `-7` is `1.25e-7`. -/
structure Scientific where
  digits : List Char
  exponent : Int
  deriving DecidableEq, Repr

/-- The decimal digits of a natural number. -/
def digitsOf (number : Nat) : List Char :=
  Nat.toDigits 10 number

/-- The exponent of the leading decimal digit of a positive fraction. -/
def leadingExponent (numerator denominator : Nat) : Int :=
  if denominator ≤ numerator then ((digitsOf (numerator / denominator)).length : Int) - 1
  else
    let ceiling := (denominator + numerator - 1) / numerator
    Int.negOfNat (digitsOf (ceiling - 1)).length

namespace Binary64

/-- Whether the real number `numerator / denominator` rounds to the magnitude of a double. -/
def roundsTo (double : Binary64) (numerator denominator : Nat) : Bool :=
  let narrow := double.significand = Nat.pow 2 52 ∧ double.exponent > minExponent
  let below := if narrow then 4 * double.significand - 1 else 4 * double.significand - 2
  let above := 4 * double.significand + 2
  let (low, lowUnit) := scale below 1 (double.exponent - 2)
  let (high, highUnit) := scale above 1 (double.exponent - 2)
  let left := low * denominator
  let value := numerator
  let right := high * denominator
  if double.significand % 2 = 0 then left ≤ value * lowUnit && value * highUnit ≤ right
  else left < value * lowUnit && value * highUnit < right

/-- The neighbour of a double on the grid of `10 ^ place` that rounds to it, the nearer of two. -/
def onGrid (double : Binary64) (place : Int) : Option Nat :=
  let (numerator, denominator) := double.fraction
  let (up, down) :=
    if 0 ≤ place then (1, Nat.pow 10 place.toNat) else (Nat.pow 10 (-place).toNat, 1)
  let lower := numerator * up / (denominator * down)
  let twice := 2 * (numerator * up)
  let middle := (2 * lower + 1) * (denominator * down)
  let lowerFits := double.roundsTo (lower * down) up
  let upperFits := double.roundsTo ((lower + 1) * down) up
  if lowerFits && upperFits then
    if twice < middle ∨ (twice = middle ∧ lower % 2 = 0) then some lower else some (lower + 1)
  else if lowerFits then some lower
  else if upperFits then some (lower + 1)
  else none

/-- The shortest digits that read back as the magnitude of a double other than zero. -/
def shortest (double : Binary64) : Scientific :=
  let (numerator, denominator) := double.fraction
  let leading := leadingExponent numerator denominator
  let candidates := (List.range 17).filterMap fun (count : Nat) =>
    (double.onGrid (leading - count)).map fun number => (number, leading - count)
  match candidates with
  | [] => ⟨['0'], 0⟩
  | (number, place) :: _ =>
    let digits := digitsOf number
    ⟨(digits.reverse.dropWhile (· == '0')).reverse, place + digits.length - 1⟩

end Binary64

/-- How a double is written: leading exponents from `-5` to `15` are positional and keep a
fraction, all others are scientific with a signed exponent. -/
def Scientific.render (number : Scientific) : List Char :=
  let count : Int := number.digits.length
  if -5 ≤ number.exponent ∧ number.exponent ≤ 15 then
    if number.exponent < 0 then
      ['0', '.'] ++ List.replicate (-number.exponent - 1).toNat '0' ++ number.digits
    else if count ≤ number.exponent + 1 then
      number.digits ++ List.replicate (number.exponent + 1 - count).toNat '0' ++ ['.', '0']
    else
      let whole := (number.exponent + 1).toNat
      number.digits.take whole ++ ['.'] ++ number.digits.drop whole
  else
    let fraction := match number.digits with
      | [] => []
      | [digit] => [digit]
      | digit :: rest => digit :: '.' :: rest
    let sign := if number.exponent < 0 then '-' else '+'
    fraction ++ ['e', sign] ++ digitsOf number.exponent.natAbs

/-- The text of a double. -/
def Binary64.render (double : Binary64) : String :=
  let sign := if double.negative then ['-'] else []
  let magnitude := if double.isZero then ['0', '.', '0'] else double.shortest.render
  String.ofList (sign ++ magnitude)

end QuizFeed.Decimal
