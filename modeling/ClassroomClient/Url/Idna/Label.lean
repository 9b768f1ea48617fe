/-
# The rules for labels

A domain name consists of labels. A label in its final form holds kept characters only, does
not begin with a combining mark, uses the two joiners only where they have an effect, and, in
a name with right-to-left characters, does not mix directions in a confusing way.
-/

import ClassroomClient.Text.Composition
import ClassroomClient.Url.Idna.Mapping
import ClassroomClient.Url.Idna.Properties
import ClassroomClient.Url.Idna.Punycode

namespace ClassroomClient.Url.Idna

/-- The combining class of the signs that mute a vowel. -/
def viramaClass : Nat := 9

/-- Whether the text ends in a character that joins to the left, apart from transparent ones.
The text is given from its end. -/
def joinsBefore (reversed : List Char) : Bool :=
  match reversed.dropWhile fun c => joining c == .transparent with
  | [] => false
  | c :: _ => joining c == .left || joining c == .dual

/-- Whether the text begins with a character that joins to the right, apart from transparent
ones. -/
def joinsAfter (text : List Char) : Bool :=
  match text.dropWhile fun c => joining c == .transparent with
  | [] => false
  | c :: _ => joining c == .right || joining c == .dual

/-- Whether both joiners stand only where they may. `before` holds the characters in front,
the last one first. -/
def joinersFit : List Char → List Char → Bool
  | _, [] => true
  | before, c :: rest =>
    let afterVirama := match before with
      | last :: _ => Text.combiningClass last == viramaClass
      | [] => false
    let fits :=
      if c.toNat == 0x200D then afterVirama
      else if c.toNat == 0x200C then afterVirama || (joinsBefore before && joinsAfter rest)
      else true
    fits && joinersFit (c :: before) rest

/-- Whether a label makes its name a bidirectional one. -/
def isBidirectional (label : List Char) : Bool :=
  label.any fun c =>
    match direction c with
    | .rightToLeft | .arabicLetter | .arabicNumber => true
    | _ => false

/-- The classes that may stand in a right-to-left label. -/
def fitsRightToLeft : Direction → Bool
  | .leftToRight => false
  | _ => true

/-- The classes that may stand in a left-to-right label. -/
def fitsLeftToRight : Direction → Bool
  | .rightToLeft | .arabicLetter | .arabicNumber => false
  | _ => true

/-- Whether a label of a bidirectional name keeps to one direction. -/
def directionsFit (label : List Char) : Bool :=
  let classes := label.map direction
  let last? := (classes.reverse.dropWhile (· == .nonspacingMark)).head?
  match classes with
  | [] => true
  | first :: _ =>
    if first == .rightToLeft || first == .arabicLetter then
      classes.all fitsRightToLeft &&
        !(classes.contains .europeanNumber && classes.contains .arabicNumber) &&
        match last? with
        | some .rightToLeft | some .arabicLetter | some .europeanNumber | some .arabicNumber => true
        | _ => false
    else if first == .leftToRight then
      classes.all fitsLeftToRight &&
        match last? with
        | some .leftToRight | some .europeanNumber => true
        | _ => false
    else
      false

/-- The beginning of labels that are written in Punycode. -/
def punycodeMark : List Char := ['x', 'n', '-', '-']

/-- Whether a label in its final form keeps the rules that do not depend on its name. -/
def isValidLabel (label : List Char) : Bool :=
  label.all isKept &&
    !punycodeMark.isPrefixOf label &&
    joinersFit [] label &&
    match label with
    | [] => true
    | c :: _ => !marks.contains c.toNat

/-- The final form of a mapped label. A Punycode label must hold something that needs it. -/
def finalLabel? (label : List Char) : Option (List Char) :=
  if punycodeMark.isPrefixOf label then do
    let decoded ← Punycode.decode? (label.drop punycodeMark.length)
    if decoded.all (fun c => c.toNat < 0x80) || Text.composed decoded != decoded ||
        !isValidLabel decoded then
      none
    else
      some decoded
  else if isValidLabel label then
    some label
  else
    none

/-- A label in letters that every resolver knows. -/
def asciiLabel (label : List Char) : List Char :=
  if label.all fun c => c.toNat < 0x80 then label
  else punycodeMark ++ Punycode.encode label

/-- The form of a domain name that is looked up, in plain letters. A name that breaks a rule has
none. -/
def toAscii? (name : List Char) : Option (List Char) := do
  let mapped ← mapChars? name
  let labels ← ((Text.composed mapped).splitOn '.').mapM finalLabel?
  if labels.any isBidirectional && !labels.all directionsFit then
    none
  else
    return List.intercalate ['.'] (labels.map asciiLabel)

end ClassroomClient.Url.Idna
