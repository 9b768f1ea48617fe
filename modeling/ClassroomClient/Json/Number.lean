/-
# JSON numbers

A number keeps its integer exactly while it fits into 64 bits, signed or unsigned. Any other
number is a binary64 real, built from at most twenty leading digits and a decimal exponent.
Reals are written with the fewest digits that read back.
-/

import ClassroomClient.Text.Decimal
import ClassroomClient.Text.Shortest

namespace ClassroomClient.Json

/-- A JSON number. Integers lie between `-2 ^ 63` and `2 ^ 64 - 1`. -/
inductive Number
  | integer (value : Int)
  | real (value : Float)
  deriving DecidableEq, Repr, Inhabited

namespace Number

/-- The largest natural number that is kept exactly. -/
def maxInteger : Nat := Nat.pow 2 64 - 1

/-- A real as a sign and a positive binary number. Zero has no binary number. -/
def binary? (value : Float) : Option Text.BinaryNumber :=
  let bits := value.toBits.toNat
  let biased : Nat := bits / Nat.pow 2 52 % Nat.pow 2 11
  let fraction : Nat := bits % Nat.pow 2 52
  if biased == 0 then
    if fraction == 0 then none
    else some { significand := fraction, exponent := -1074, narrowBelow := false }
  else
    some
      { significand := Nat.pow 2 52 + fraction
        exponent := Int.ofNat biased - 1075
        narrowBelow := fraction == 0 && 1 < biased }

/-- Whether the sign bit of a real is set. -/
def isNegative (value : Float) : Bool :=
  Nat.pow 2 63 ≤ value.toBits.toNat

/-- Lays out decimal digits. `point` is the number of digits before the decimal point; from
-4 to 16 it is written as such, and otherwise as a signed exponent after the first digit. -/
def layout (digits : List Char) (point : Int) : List Char :=
  let count : Int := digits.length
  if count ≤ point && point ≤ 16 then
    digits ++ List.replicate (point - count).toNat '0' ++ ['.', '0']
  else if 0 < point && point ≤ 16 then
    digits.take point.toNat ++ '.' :: digits.drop point.toNat
  else if -5 < point && point ≤ 0 then
    ['0', '.'] ++ List.replicate (-point).toNat '0' ++ digits
  else
    let mantissa := match digits with
      | [] => []
      | [digit] => [digit]
      | digit :: more => digit :: '.' :: more
    let sign := if point < 1 then '-' else '+'
    mantissa ++ 'e' :: sign :: Text.decimal (point - 1).natAbs

/-- The text of a real. -/
def realText (value : Float) : List Char :=
  let unsigned := match binary? value with
    | none => ['0', '.', '0']
    | some number =>
      let decimal := Text.DecimalNumber.stripZeros 20 number.shortest
      let digits := Text.decimal decimal.digits
      layout digits (digits.length + decimal.exponent)
  if isNegative value then '-' :: unsigned else unsigned

/-- The text of a number. -/
def text : Number → List Char
  | integer value => Text.signedDecimal value
  | real value => realText value

/-- A power of ten as a real. -/
def powerOfTen (exponent : Nat) : Float :=
  Float.ofScientific 1 false exponent

/-- Scales a real by a decimal exponent. Exponents below -308 are divided off in steps, the
fuel bounds their number. Nothing is returned when the result is too large. -/
def scale? : Nat → Float → Int → Option Float
  | 0, value, _ => some value
  | fuel + 1, value, exponent =>
    if exponent.natAbs ≤ 308 then
      if 0 ≤ exponent then
        let product := value * powerOfTen exponent.natAbs
        if product.isInf then none else some product
      else
        some (value / powerOfTen exponent.natAbs)
    else if value == 0 then
      some value
    else if 0 ≤ exponent then
      none
    else
      scale? fuel (value / powerOfTen 308) (exponent + 308)

/-- The real `± significand * 10 ^ exponent`, unless it is too large. -/
def ofParts? (negative : Bool) (significand : Nat) (exponent : Int) : Option Number :=
  (scale? 8 (UInt64.ofNat significand).toFloat exponent).map fun value =>
    real (if negative then -value else value)

/-- The number of an integer text. A negative zero and integers below 64 bits are reals. -/
def ofInteger (negative : Bool) (significand : Nat) : Number :=
  if !negative then
    integer significand
  else if significand == 0 || Nat.pow 2 63 < significand then
    real (-(UInt64.ofNat significand).toFloat)
  else
    integer (-(significand : Int))

end Number

end ClassroomClient.Json
