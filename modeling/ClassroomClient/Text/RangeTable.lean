/-
# Tables of code point ranges

Properties of characters are kept as sorted lists of disjoint ranges, written as hexadecimal
text. A lookup halves the table until one range is left.
-/

namespace ClassroomClient.Text

/-- Sorted disjoint ranges of code points, ends included. -/
structure RangeTable where
  ranges : Array (Nat × Nat)
  deriving Inhabited

/-- The value of a hexadecimal digit. -/
def hexDigit? (c : Char) : Option Nat :=
  if '0' ≤ c && c ≤ '9' then some (c.toNat - '0'.toNat)
  else if 'a' ≤ c && c ≤ 'f' then some (c.toNat - 'a'.toNat + 10)
  else if 'A' ≤ c && c ≤ 'F' then some (c.toNat - 'A'.toNat + 10)
  else none

/-- Reads hexadecimal digits; other characters are passed over. -/
def hexValue (digits : List Char) : Nat :=
  digits.foldl (fun value c => match hexDigit? c with
    | some digit => value * 16 + digit
    | none => value) 0

namespace RangeTable

/-- Reads one entry, either a code point or two code points with a hyphen between them. -/
def entryOfText (text : String) : Nat × Nat :=
  match text.splitOn "-" with
  | [first, last] => (hexValue first.toList, hexValue last.toList)
  | _ => (hexValue text.toList, hexValue text.toList)

/-- Reads a table written as entries between spaces and line ends. -/
def ofText (text : String) : RangeTable :=
  let entries := (text.split fun c => c == ' ' || c == '\n').toList.filter (!·.isEmpty)
  { ranges := (entries.map fun entry => entryOfText entry.toString).toArray }

/-- Looks for a range with the code point among the entries from `low` up to `high`. The fuel
bounds the number of halvings. -/
def search (ranges : Array (Nat × Nat)) (code : Nat) : Nat → Nat → Nat → Option Nat
  | 0, _, _ => none
  | fuel + 1, low, high =>
    if low < high then
      let middle := (low + high) / 2
      match ranges[middle]? with
      | none => none
      | some (first, last) =>
        if code < first then search ranges code fuel low middle
        else if last < code then search ranges code fuel (middle + 1) high
        else some middle
    else
      none

/-- The position of the range that holds the code point. -/
def find? (table : RangeTable) (code : Nat) : Option Nat :=
  search table.ranges code (table.ranges.size + 1) 0 table.ranges.size

/-- Whether one of the ranges holds the code point. -/
def contains (table : RangeTable) (code : Nat) : Bool :=
  (table.find? code).isSome

end RangeTable

end ClassroomClient.Text
