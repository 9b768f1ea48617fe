/-
# Decimal numerals

Writes natural numbers in base ten and reads them back. Reading is strict about the digits
and leaves signs and limits to the formats that have them.
-/

namespace ClassroomClient.Text

/-- The decimal digits of a number, without leading zeros. -/
def decimal (n : Nat) : List Char :=
  Nat.toDigits 10 n

/-- Reads a non-empty list of decimal digits. -/
def readDecimal? (digits : List Char) : Option Nat :=
  if digits.isEmpty || !digits.all Char.isDigit then
    none
  else
    some (Nat.ofDigitChars 10 digits 0)

/-- The largest size that a 64-bit machine can name. -/
def maxSize : Nat := Nat.pow 2 64 - 1

/-- Reads a size: decimal digits with at most one leading plus sign, up to `maxSize`. -/
def readSize? (text : List Char) : Option Nat :=
  let digits := match text with
    | '+' :: rest => rest
    | _ => text
  (readDecimal? digits).filter (· ≤ maxSize)

/-- Pads a text on the left with `0` up to a width. -/
def padZeros (width : Nat) (digits : List Char) : List Char :=
  List.replicate (width - digits.length) '0' ++ digits

/-- A signed number in base ten. -/
def signedDecimal (n : Int) : List Char :=
  if n < 0 then '-' :: decimal n.natAbs else decimal n.natAbs

end ClassroomClient.Text
