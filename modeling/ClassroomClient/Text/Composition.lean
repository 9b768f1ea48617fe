/-
# The composed form of text

Two spellings of one character, composed and decomposed, count as equal. The composed form
decomposes all characters, orders the combining characters behind each base by their classes,
and then composes what can be composed.
-/

import ClassroomClient.Text.Decomposition

namespace ClassroomClient.Text

/-- The first Hangul syllable. -/
def hangulBase : Nat := 0xAC00

/-- The number of Hangul syllables. -/
def hangulCount : Nat := 11172

/-- The letters of a Hangul syllable. -/
def hangulLetters (code : Nat) : List Char :=
  let index := code - hangulBase
  let letters := [0x1100 + index / 588, 0x1161 + index % 588 / 28]
  let final := index % 28
  (if final == 0 then letters else letters ++ [0x11A7 + final]).map Char.ofNat

/-- Decomposes a character. The fuel bounds the number of steps. -/
def decompose : Nat → Char → List Char
  | 0, c => [c]
  | fuel + 1, c =>
    if hangulBase ≤ c.toNat && c.toNat < hangulBase + hangulCount then
      hangulLetters c.toNat
    else
      match decompositions.find? c.toNat with
      | some (_, parts) => parts.flatMap fun part => decompose fuel (Char.ofNat part)
      | none => [c]

/-- Puts a combining character behind a reversed text, before those of a higher class. -/
def insertCombining (c : Char) : List Char → List Char
  | [] => [c]
  | last :: before =>
    if combiningClass c < combiningClass last then last :: insertCombining c before
    else c :: last :: before

/-- Orders the combining characters behind each base. -/
def orderCombining (chars : List Char) : List Char :=
  (chars.foldl (fun reversed c =>
    if combiningClass c == 0 then c :: reversed else insertCombining c reversed) []).reverse

/-- The Hangul syllable of a syllable or letter and the letter behind it. -/
def composeHangul? (first second : Nat) : Option Nat :=
  if 0x1100 ≤ first && first < 0x1113 && 0x1161 ≤ second && second < 0x1176 then
    some (hangulBase + ((first - 0x1100) * 21 + (second - 0x1161)) * 28)
  else if hangulBase ≤ first && first < hangulBase + hangulCount &&
      (first - hangulBase) % 28 == 0 && 0x11A8 ≤ second && second < 0x11C3 then
    some (first + (second - 0x11A7))
  else
    none

/-- The character that two characters compose to. -/
def composePair? (first second : Char) : Option Char :=
  match composeHangul? first.toNat second.toNat with
  | some code => some (Char.ofNat code)
  | none => do
    let position ← decompositions.values.findIdx? (· == [first.toNat, second.toNat])
    let (code, _) ← decompositions.ranges.ranges[position]?
    if compositionExclusions.contains code then none else some (Char.ofNat code)

/-- Composes the characters behind a base. `pending` holds those that stay, the last in
front. -/
def composeBehind (base : Char) (pending : List Char) : List Char → List Char
  | [] => base :: pending.reverse
  | c :: rest =>
    let order := combiningClass c
    let reachable := match pending with
      | [] => true
      | last :: _ => combiningClass last != 0 && combiningClass last < order
    match if reachable then composePair? base c else none with
    | some composed => composeBehind composed pending rest
    | none =>
      if order == 0 then base :: pending.reverse ++ composeBehind c [] rest
      else composeBehind base (c :: pending) rest

/-- Composes a text in which the combining characters are in order. -/
def composeAll : List Char → List Char
  | [] => []
  | c :: rest =>
    if combiningClass c == 0 then composeBehind c [] rest else c :: composeAll rest

/-- The composed form of a text. -/
def composed (chars : List Char) : List Char :=
  composeAll (orderCombining (chars.flatMap (decompose 8)))

end ClassroomClient.Text
