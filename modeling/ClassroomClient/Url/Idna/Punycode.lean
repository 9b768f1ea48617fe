/-
# Punycode

Writes a label with any characters in letters, digits and hyphens. The plain characters come
first; the others follow as a sequence of numbers, each of which says how far to go until the
next insertion. The numbers have digits to the base 36 with thresholds that adapt.
-/

import ClassroomClient.Text.Decimal

namespace ClassroomClient.Url.Idna.Punycode

/-- The digit of a value below 36. -/
def digitChar (value : Nat) : Char :=
  if value < 26 then Char.ofNat ('a'.toNat + value) else Char.ofNat ('0'.toNat + value - 26)

/-- The value of a digit. -/
def digitValue? (c : Char) : Option Nat :=
  if 'a' ≤ c && c ≤ 'z' then some (c.toNat - 'a'.toNat)
  else if 'A' ≤ c && c ≤ 'Z' then some (c.toNat - 'A'.toNat)
  else if '0' ≤ c && c ≤ '9' then some (c.toNat - '0'.toNat + 26)
  else none

/-- The threshold of the digit at a position. -/
def threshold (position bias : Nat) : Nat :=
  if position ≤ bias then 1 else min 26 (position - bias)

/-- Divides a difference down to the range of the bias and counts the digits. The fuel bounds
the divisions. -/
def reduce : Nat → Nat → Nat → Nat × Nat
  | 0, delta, position => (delta, position)
  | fuel + 1, delta, position =>
    if 455 < delta then reduce fuel (delta / 35) (position + 36) else (delta, position)

/-- The bias after a difference was written or read. -/
def adapt (delta count : Nat) (first : Bool) : Nat :=
  let halved := if first then delta / 700 else delta / 2
  let (rest, position) := reduce 64 (halved + halved / count) 0
  position + 36 * rest / (rest + 38)

/-- The digits of a difference, from a position on. The fuel bounds their number. -/
def writeDelta (bias : Nat) : Nat → Nat → Nat → List Char
  | 0, _, _ => []
  | fuel + 1, position, delta =>
    let limit := threshold position bias
    if delta < limit then [digitChar delta]
    else
      digitChar (limit + (delta - limit) % (36 - limit)) ::
        writeDelta bias fuel (position + 36) ((delta - limit) / (36 - limit))

/-- What is kept while a label is written. -/
structure Progress where
  written : List Char
  delta : Nat
  bias : Nat
  handled : Nat

/-- Handles one character of the label while the characters of the code point `code` are
written. -/
def visit (basics code : Nat) (progress : Progress) (c : Char) : Progress :=
  if c.toNat < code then
    { progress with delta := progress.delta + 1 }
  else if c.toNat == code then
    { written := progress.written ++ writeDelta progress.bias 64 36 progress.delta
      delta := 0
      bias := adapt progress.delta (progress.handled + 1) (progress.handled == basics)
      handled := progress.handled + 1 }
  else
    progress

/-- Writes the characters from the code point `code` on, the lowest code point first. The fuel
bounds the number of code points. -/
def writeFrom (label : List Char) (basics : Nat) : Nat → Nat → Progress → List Char
  | 0, _, progress => progress.written
  | fuel + 1, code, progress =>
    match (label.filter fun c => code ≤ c.toNat).map Char.toNat |>.min? with
    | none => progress.written
    | some next =>
      let skipped :=
        { progress with delta := progress.delta + (next - code) * (progress.handled + 1) }
      let after := label.foldl (visit basics next) skipped
      writeFrom label basics fuel (next + 1) { after with delta := after.delta + 1 }

/-- Writes a label. -/
def encode (label : List Char) : List Char :=
  let basic := label.filter fun c => c.toNat < 0x80
  let start := if basic.isEmpty then [] else basic ++ ['-']
  writeFrom label basic.length label.length 0x80
    { written := start, delta := 0, bias := 72, handled := basic.length }

/-- Reads the digits of one difference. Returns it with the digits behind it. -/
def readDelta? (bias : Nat) : Nat → Nat → Nat → List Char → Option (Nat × List Char)
  | _, _, _, [] => none
  | position, weight, value, c :: rest => do
    let digit ← digitValue? c
    let value := value + digit * weight
    if Nat.pow 2 32 ≤ value then none
    else
      let limit := threshold position bias
      if digit < limit then some (value, rest)
      else
        let weight := weight * (36 - limit)
        if Nat.pow 2 32 ≤ weight then none
        else readDelta? bias (position + 36) weight value rest

/-- Inserts the characters that the digits stand for into a label of which `basics` characters
are plain. The next character has at least the code point `code`, and among those of that code
point it stands at `place` or behind. The fuel bounds the number of insertions. -/
def insertFrom (basics : Nat) :
    Nat → Nat → Nat → Nat → List Char → List Char → Option (List Char)
  | _, _, _, _, label, [] => some label
  | 0, _, _, _, _, _ => none
  | fuel + 1, code, place, bias, label, digits => do
    let (delta, rest) ← readDelta? bias 36 1 0 digits
    let count := label.length + 1
    let code := code + (place + delta) / count
    let place := (place + delta) % count
    if 0x110000 ≤ code || (0xD800 ≤ code && code ≤ 0xDFFF) then
      none
    else
      insertFrom basics fuel code (place + 1) (adapt delta count (label.length == basics))
        (label.take place ++ Char.ofNat code :: label.drop place) rest

/-- Splits a text at its last hyphen. -/
def splitLastHyphen (text : List Char) : List Char × List Char :=
  let reversed := text.reverse
  match reversed.dropWhile (· != '-') with
  | [] => ([], text)
  | _ :: before => (before.reverse, (reversed.takeWhile (· != '-')).reverse)

/-- Reads a label back. -/
def decode? (text : List Char) : Option (List Char) :=
  let (basic, digits) := splitLastHyphen text
  if basic.all fun c => c.toNat < 0x80 then
    insertFrom basic.length digits.length 0x80 0 72 basic digits
  else
    none

end ClassroomClient.Url.Idna.Punycode
