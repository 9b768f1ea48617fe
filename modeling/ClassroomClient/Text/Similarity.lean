/-
# Similarity of words

The Jaro similarity of two words, by which a mistyped name finds the name that was meant. Two
equal characters match if they stand near each other, and each character matches at most once.
The similarity grows with the number of matches and shrinks with the matches that stand in
another order.
-/

namespace ClassroomClient.Text

/-- A character together with whether it has been matched. -/
abbrev Marked := Char × Bool

/-- Marks the first free occurrence of `c` whose position lies between `low` and `high`. The
list starts at the position that is given last. -/
def claim? (c : Char) (low high : Nat) : Nat → List Marked → Option (List Marked)
  | _, [] => none
  | position, (d, taken) :: rest =>
    if low ≤ position && position < high && !taken && d == c then some ((d, true) :: rest)
    else (claim? c low high (position + 1) rest).map ((d, taken) :: ·)

/-- The characters of a word that find a match within `range` places, and the other word with
its matches marked. The word starts at the position that is given last. -/
def matchWithin (range : Nat) (other : List Marked) : Nat → List Char → List Char × List Marked
  | _, [] => ([], other)
  | position, c :: rest =>
    match claim? c (position - range) (position + range + 1) 0 other with
    | some marked =>
      let (found, marked) := matchWithin range marked (position + 1) rest
      (c :: found, marked)
    | none => matchWithin range other (position + 1) rest

/-- How far apart two characters may stand to match. -/
def matchRange (first second : List Char) : Nat :=
  max first.length second.length / 2 - 1

/-- The matched characters of both words, each in the order of its word. -/
def matched (first second : List Char) : List Char × List Char :=
  let (found, marked) :=
    matchWithin (matchRange first second) (second.map fun c => (c, false)) 0 first
  (found, (marked.filter (·.2)).map (·.1))

/-- The Jaro similarity, a number from 0 to 1. -/
def jaro (first second : List Char) : Float :=
  if first.isEmpty && second.isEmpty then 1
  else
    let (inFirst, inSecond) := matched first second
    let count := inFirst.length
    if count == 0 then 0
    else
      let displaced := ((inFirst.zip inSecond).filter fun (c, d) => c != d).length / 2
      (Float.ofNat count / Float.ofNat first.length +
        Float.ofNat count / Float.ofNat second.length +
        Float.ofNat (count - displaced) / Float.ofNat count) / 3

end ClassroomClient.Text
