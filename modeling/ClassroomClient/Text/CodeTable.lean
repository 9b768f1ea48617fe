/-
# Tables of values for code points

Ranges of code points with a list of numbers for each range, written as hexadecimal text. An
entry is `first-last=a.b` or `code=a.b`.
-/

import ClassroomClient.Text.RangeTable

namespace ClassroomClient.Text

/-- Sorted disjoint ranges, and the numbers of each range under the same position. -/
structure CodeTable where
  ranges : RangeTable
  values : Array (List Nat)
  deriving Inhabited

namespace CodeTable

/-- Reads one entry. -/
def entryOfText (text : String) : (Nat × Nat) × List Nat :=
  match text.splitOn "=" with
  | [range, values] =>
    (RangeTable.entryOfText range, (values.splitOn ".").map fun value => hexValue value.toList)
  | _ => (RangeTable.entryOfText text, [])

/-- Reads a table written as entries between spaces and line ends. -/
def ofText (text : String) : CodeTable :=
  let entries := (text.split fun c => c == ' ' || c == '\n').toList.filter (!·.isEmpty)
  let read := entries.map fun entry => entryOfText entry.toString
  { ranges := { ranges := (read.map (·.1)).toArray }
    values := (read.map (·.2)).toArray }

/-- The numbers of the range that holds the code point, with the place of the code point in
the range. -/
def find? (table : CodeTable) (code : Nat) : Option (Nat × List Nat) := do
  let position ← table.ranges.find? code
  let (first, _) ← table.ranges.ranges[position]?
  let values ← table.values[position]?
  return (code - first, values)

end CodeTable

end ClassroomClient.Text
