/-
# The fewest digits that read back

A binary64 number stands for every real that rounds to it. This module finds, in exact
arithmetic, the decimal with the fewest digits among those reals, and of two such decimals the
nearer one. A number is given as `significand * 2 ^ exponent`.
-/

namespace ClassroomClient.Text

/-- A positive binary number with the reals that round to it. `narrowBelow` says that the gap
to the next smaller number is half of the gap to the next larger one. -/
structure BinaryNumber where
  significand : Nat
  exponent : Int
  narrowBelow : Bool
  deriving DecidableEq, Repr

/-- A decimal number `digits * 10 ^ exponent`. -/
structure DecimalNumber where
  digits : Nat
  exponent : Int
  deriving DecidableEq, Repr, Inhabited

namespace BinaryNumber

/-- Scales `quarters * 2 ^ (exponent - 2)` by a power of ten to a fraction of two naturals. -/
def scaled (number : BinaryNumber) (quarters : Nat) (power : Int) : Nat × Nat :=
  let twos := number.exponent - 2
  let up := Nat.pow 2 twos.toNat * Nat.pow 10 power.toNat
  let down := Nat.pow 2 (-twos).toNat * Nat.pow 10 (-power).toNat
  (quarters * up, down)

/-- The end of the interval below the number, in quarters of its last place. -/
def lowQuarters (number : BinaryNumber) : Nat :=
  4 * number.significand - (if number.narrowBelow then 1 else 2)

/-- The end of the interval above the number, in quarters of its last place. -/
def highQuarters (number : BinaryNumber) : Nat :=
  4 * number.significand + 2

/-- Whether `digits * 10 ^ exponent` rounds to the number. The ends of the interval belong to
it when the significand is even. -/
def holds (number : BinaryNumber) (decimal : DecimalNumber) : Bool :=
  let (low, unit) := number.scaled number.lowQuarters (-decimal.exponent)
  let (high, _) := number.scaled number.highQuarters (-decimal.exponent)
  let point := decimal.digits * unit
  if number.significand % 2 == 0 then
    low ≤ point && point ≤ high
  else
    low < point && point < high

/-- The decimal exponent of the leading digit, looked for downwards from `guess`. -/
def leadingExponent (number : BinaryNumber) : Nat → Int → Int
  | 0, guess => guess
  | fuel + 1, guess =>
    let (value, unit) := number.scaled (4 * number.significand) (-guess)
    if unit ≤ value then guess else leadingExponent number fuel (guess - 1)

/-- The neighbours of the number on the grid of multiples of `10 ^ exponent` that round to it;
of two the nearer, and of two equally near the even one. -/
def onGrid? (number : BinaryNumber) (exponent : Int) : Option DecimalNumber :=
  let (value, unit) := number.scaled (4 * number.significand) (-exponent)
  let below : DecimalNumber := { digits := value / unit, exponent }
  let above : DecimalNumber := { digits := value / unit + 1, exponent }
  match number.holds below, number.holds above with
  | true, true =>
    let twice := 2 * (value % unit)
    if twice < unit || (twice == unit && below.digits % 2 == 0) then some below else some above
  | true, false => some below
  | false, true => some above
  | false, false => none

/-- Looks for the coarsest grid that has a decimal for the number. -/
def coarsest (number : BinaryNumber) : Nat → Int → DecimalNumber
  | 0, exponent => (number.onGrid? exponent).getD { digits := 0, exponent }
  | fuel + 1, exponent =>
    match number.onGrid? exponent with
    | some decimal => decimal
    | none => coarsest number fuel (exponent - 1)

/-- A decimal exponent that is at least that of the leading digit and exceeds it by at most
three: the binary exponent of the leading bit times the logarithm of two. -/
def exponentEstimate (number : BinaryNumber) : Int :=
  (((number.significand.log2 : Int) + number.exponent + 1) * 30103).fdiv 100000 + 1

/-- The decimal with the fewest digits that rounds to the number. -/
def shortest (number : BinaryNumber) : DecimalNumber :=
  number.coarsest 17 (number.leadingExponent 4 number.exponentEstimate)

end BinaryNumber

/-- Moves the zeros at the end of the digits into the exponent. The fuel bounds their number. -/
def DecimalNumber.stripZeros : Nat → DecimalNumber → DecimalNumber
  | 0, decimal => decimal
  | fuel + 1, decimal =>
    if decimal.digits % 10 == 0 && decimal.digits != 0 then
      stripZeros fuel { digits := decimal.digits / 10, exponent := decimal.exponent + 1 }
    else
      decimal

end ClassroomClient.Text
