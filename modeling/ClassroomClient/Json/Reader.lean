/-
# Reading JSON

Readers take the text that is left, consume one value from its front and return it with the
text behind it. Values nest at most `maxDepth` levels deep. Every text is decided from left to
right: the first fault wins, whether it lies in the grammar or in the kind of a value.
-/

import ClassroomClient.Json.Fault
import ClassroomClient.Json.Value
import ClassroomClient.Text.RangeTable

namespace ClassroomClient.Json

/-- A reader consumes a value from the front of a text. -/
abbrev Reader (α : Type) := List Char → Except Fault (α × List Char)

/-- The blanks between the tokens of a JSON text. -/
def isSpace (c : Char) : Bool :=
  c == ' ' || c == '\n' || c == '\t' || c == '\r'

/-- The text without the blanks in front. -/
def skipSpace (text : List Char) : List Char :=
  text.dropWhile isSpace

/-- The number of levels of arrays and objects, plus one. -/
def maxDepth : Nat := 128

/-! ### Words and strings -/

/-- Reads the characters of a word one by one. -/
def readWord : List Char → List Char → Except Fault (List Char)
  | [], text => .ok text
  | _ :: _, [] => .error (.before .endInValue [])
  | expected :: word, c :: rest =>
    if c == expected then readWord word rest else .error (.within .expectedWord (c :: rest))

/-- Reads four hexadecimal digits, which must be there as four bytes before they are looked
at. -/
def readHexUnit (text : List Char) : Except Fault (Nat × List Char) :=
  if Text.utf8Length text < 4 then
    .error (.before .endInString [])
  else
    let refused : Except Fault (Nat × List Char) :=
      .error { cause := .invalidEscape, bytesLeft := Text.utf8Length text - 4 }
    match text with
    | a :: b :: c :: d :: rest =>
      match Text.hexDigit? a, Text.hexDigit? b, Text.hexDigit? c, Text.hexDigit? d with
      | some a, some b, some c, some d => .ok (((a * 16 + b) * 16 + c) * 16 + d, rest)
      | _, _, _, _ => refused
    | _ => refused

/-- Whether a UTF-16 unit begins a pair. -/
def isLeadingUnit (unit : Nat) : Bool := 0xD800 ≤ unit && unit ≤ 0xDBFF

/-- Whether a UTF-16 unit ends a pair. -/
def isTrailingUnit (unit : Nat) : Bool := 0xDC00 ≤ unit && unit ≤ 0xDFFF

/-- Reads the second unit of a pair, which is an escape of its own. -/
def readTrailingUnit (leading : Nat) (text : List Char) : Except Fault (Char × List Char) :=
  match text with
  | [] => .error (.before .endInString [])
  | ['\\'] => .error (.before .endInString [])
  | '\\' :: 'u' :: digits => do
    let (trailing, rest) ← readHexUnit digits
    if isTrailingUnit trailing then
      return (Char.ofNat ((leading - 0xD800) * 0x400 + (trailing - 0xDC00) + 0x10000), rest)
    else
      .error (.before .loneSurrogate rest)
  | '\\' :: rest => .error (.within .unfinishedSurrogate rest)
  | rest => .error (.within .unfinishedSurrogate rest)

/-- The character of a one-letter escape. -/
def simpleEscape? : Char → Option Char
  | '"' => some '"'
  | '\\' => some '\\'
  | '/' => some '/'
  | 'b' => some '\x08'
  | 'f' => some '\x0c'
  | 'n' => some '\n'
  | 'r' => some '\r'
  | 't' => some '\t'
  | _ => none

/-- Reads an escape behind its backslash. -/
def readEscape (text : List Char) : Except Fault (Char × List Char) :=
  match text with
  | [] => .error (.before .endInString [])
  | letter :: rest =>
    match simpleEscape? letter with
    | some c => .ok (c, rest)
    | none =>
      if letter == 'u' then do
        let (unit, rest) ← readHexUnit rest
        if isTrailingUnit unit then
          .error (.before .loneSurrogate rest)
        else if isLeadingUnit unit then
          readTrailingUnit unit rest
        else
          return (Char.ofNat unit, rest)
      else
        .error (.within .invalidEscape text)

/-- Reads the characters of a string up to the closing quote. Every step consumes a character,
and the fuel bounds their number. -/
def readChars : Nat → List Char → Except Fault (List Char × List Char)
  | 0, text => .error (.before .endInString text)
  | fuel + 1, text =>
    match text with
    | [] => .error (.before .endInString [])
    | '"' :: rest => .ok ([], rest)
    | '\\' :: rest => do
      let (c, rest) ← readEscape rest
      let (chars, rest) ← readChars fuel rest
      return (c :: chars, rest)
    | c :: rest =>
      if c.toNat < 0x20 then
        .error (.before .controlCharacter rest)
      else do
        let (chars, rest) ← readChars fuel rest
        return (c :: chars, rest)

/-- Reads a string behind its opening quote. -/
def readString : Reader String := fun text => do
  let (chars, rest) ← readChars (text.length + 1) text
  return (String.ofList chars, rest)

/-! ### Numbers -/

/-- Takes digits into a significand as long as it stays below 64 bits. Returns the significand
and the digits that were not taken. -/
def takeSignificand : Nat → List Char → Nat × List Char
  | significand, [] => (significand, [])
  | significand, c :: rest =>
    let next := significand * 10 + (c.toNat - '0'.toNat)
    if Number.maxInteger < next then (significand, c :: rest) else takeSignificand next rest

/-- The largest decimal exponent that is counted. -/
def maxExponent : Nat := Nat.pow 2 31 - 1

/-- Keeps a decimal exponent within 32 bits. -/
def clampExponent (exponent : Int) : Int :=
  max (-Int.pow 2 31) (min exponent (Int.pow 2 31 - 1))

/-- Closes a real, which may be too large. -/
def finishReal (negative : Bool) (significand : Nat) (exponent : Int) : Reader Number :=
  fun rest =>
    match Number.ofParts? negative significand exponent with
    | some number => .ok (number, rest)
    | none => .error (.before .numberOutOfRange rest)

/-- Reads the digits of an exponent. One that does not fit into 32 bits makes the number zero,
or too large as soon as that shows. -/
def readExponentDigits (negative : Bool) (significand : Nat) (start : Int) (upwards : Bool) :
    Nat → Reader Number
  | value, [] =>
    finishReal negative significand
      (clampExponent (if upwards then start + value else start - value)) []
  | value, c :: rest =>
    if c.isDigit then
      let next := value * 10 + (c.toNat - '0'.toNat)
      if maxExponent < next then
        if significand != 0 && upwards then
          .error (.before .numberOutOfRange rest)
        else
          .ok (.real (if negative then -0.0 else 0.0), rest.dropWhile Char.isDigit)
      else
        readExponentDigits negative significand start upwards next rest
    else
      finishReal negative significand
        (clampExponent (if upwards then start + value else start - value)) (c :: rest)

/-- Reads an exponent behind its letter. -/
def readExponent (negative : Bool) (significand : Nat) (start : Int) : Reader Number :=
  fun text =>
    let (upwards, digits) := match text with
      | '+' :: rest => (true, rest)
      | '-' :: rest => (false, rest)
      | _ => (true, text)
    match digits with
    | [] => .error (.before .endInValue [])
    | c :: _ =>
      if c.isDigit then
        readExponentDigits negative significand start upwards 0 digits
      else
        .error (.within .invalidNumber digits)

/-- Reads what may follow the digits of a real. -/
def readRealTail (negative : Bool) (significand : Nat) (exponent : Int) : Reader Number :=
  fun text =>
    match text with
    | 'e' :: rest => readExponent negative significand exponent rest
    | 'E' :: rest => readExponent negative significand exponent rest
    | _ => finishReal negative significand exponent text

/-- Reads the digits behind a decimal point. Those that do not fit are passed over. -/
def readFraction (negative : Bool) (significand : Nat) (exponent : Int) : Reader Number :=
  fun text =>
    let digits := text.takeWhile Char.isDigit
    let rest := text.dropWhile Char.isDigit
    if digits.isEmpty then
      match rest with
      | [] => .error (.before .endInValue [])
      | _ => .error (.within .invalidNumber rest)
    else
      let (significand, left) := takeSignificand significand digits
      readRealTail negative significand (exponent - (digits.length - left.length)) rest

/-- Reads a number behind its sign. -/
def readNumber (negative : Bool) : Reader Number := fun text =>
  match text with
  | [] => .error (.before .endInValue [])
  | first :: _ =>
    let digits := text.takeWhile Char.isDigit
    let rest := text.dropWhile Char.isDigit
    if digits.isEmpty then
      .error (.within .invalidNumber text)
    else if first == '0' && 1 < digits.length then
      .error (.within .invalidNumber text.tail)
    else
      let (significand, left) := takeSignificand 0 digits
      match rest with
      | '.' :: fraction => readFraction negative significand left.length fraction
      | 'e' :: exponent => readExponent negative significand left.length exponent
      | 'E' :: exponent => readExponent negative significand left.length exponent
      | _ =>
        if left.isEmpty then
          .ok (Number.ofInteger negative significand, rest)
        else
          finishReal negative significand left.length rest

/-! ### Arrays and objects -/

/-- Looks for another item of an array. Returns whether there is one and the text at it, or at
the closing bracket. -/
def nextItem (first : Bool) : Reader Bool := fun text =>
  match skipSpace text with
  | [] => .error (.within .endInArray [])
  | ']' :: rest => .ok (false, ']' :: rest)
  | c :: rest =>
    if first then
      .ok (true, c :: rest)
    else if c == ',' then
      match skipSpace rest with
      | [] => .error (.within .endInValue [])
      | ']' :: after => .error (.within .trailingComma (']' :: after))
      | item => .ok (true, item)
    else
      .error (.within .expectedCommaOrArrayEnd (c :: rest))

/-- Looks for another member of an object. Returns whether there is one and the text at its
name, or at the closing brace. -/
def nextMember (first : Bool) : Reader Bool := fun text =>
  match skipSpace text with
  | [] => .error (.within .endInObject [])
  | '\x7d' :: rest => .ok (false, '\x7d' :: rest)
  | c :: rest =>
    if first then
      if c == '"' then .ok (true, c :: rest) else .error (.within .nameNotString (c :: rest))
    else if c == ',' then
      match skipSpace rest with
      | [] => .error (.within .endInValue [])
      | '"' :: after => .ok (true, '"' :: after)
      | '\x7d' :: after => .error (.within .trailingComma ('\x7d' :: after))
      | other => .error (.within .nameNotString other)
    else
      .error (.within .expectedCommaOrObjectEnd (c :: rest))

/-- Reads the name of a member, of which the opening quote is seen. -/
def readName : Reader String := fun text => readString text.tail

/-- Reads the colon between a name and its value. -/
def readColon (text : List Char) : Except Fault (List Char) :=
  match skipSpace text with
  | [] => .error (.within .endInObject [])
  | ':' :: rest => .ok rest
  | other => .error (.within .expectedColon other)

/-- Reads the items of an array behind its opening bracket, up to the closing one. The fuel
bounds their number. -/
def readItems {α : Type} (readItem : Reader α) : Nat → Bool → Reader (List α)
  | 0, _, text => .error (.before .endInArray text)
  | fuel + 1, first, text => do
    let (more, text) ← nextItem first text
    if more then
      let (item, text) ← readItem text
      let (items, text) ← readItems readItem fuel false text
      return (item :: items, text)
    else
      return ([], text)

/-- Reads the members of an object behind its opening brace, up to the closing one. The fuel
bounds their number. -/
def readMembers {α : Type} (readItem : Reader α) : Nat → Bool → Reader (List (String × α))
  | 0, _, text => .error (.before .endInObject text)
  | fuel + 1, first, text => do
    let (more, text) ← nextMember first text
    if more then
      let (name, text) ← readName text
      let text ← readColon text
      let (item, text) ← readItem text
      let (members, text) ← readMembers readItem fuel false text
      return ((name, item) :: members, text)
    else
      return ([], text)

/-- Reads an array behind its opening bracket, with the closing one. -/
def readArray {α : Type} (readItem : Reader α) : Reader (List α) := fun text => do
  let (items, text) ← readItems readItem (text.length + 1) true text
  return (items, text.tail)

/-- Reads an object behind its opening brace, with the closing one. -/
def readObject {α : Type} (readItem : Reader α) : Reader (List (String × α)) := fun text => do
  let (members, text) ← readMembers readItem (text.length + 1) true text
  return (members, text.tail)

/-! ### Values -/

/-- Reads a value that is no array and no object, of which the first character is seen. -/
def readScalar (c : Char) (rest : List Char) : Except Fault (Value × List Char) :=
  match c with
  | 'n' => do return (.null, ← readWord ['u', 'l', 'l'] rest)
  | 't' => do return (.boolean true, ← readWord ['r', 'u', 'e'] rest)
  | 'f' => do return (.boolean false, ← readWord ['a', 'l', 's', 'e'] rest)
  | '-' => do
    let (number, rest) ← readNumber true rest
    return (.number number, rest)
  | '"' => do
    let (string, rest) ← readString rest
    return (.string string, rest)
  | _ =>
    if c.isDigit then do
      let (number, rest) ← readNumber false (c :: rest)
      return (.number number, rest)
    else
      .error (.within .expectedValue (c :: rest))

/-- Reads any value. `depth` is one more than the number of levels that may still open. -/
def readValue : Nat → Reader Value
  | depth, text =>
    match skipSpace text with
    | [] => .error (.within .endInValue [])
    | c :: rest =>
      if c == '[' then
        match depth with
        | depth + 2 => do
          let (items, rest) ← readArray (readValue (depth + 1)) rest
          return (.array items, rest)
        | _ => .error (.within .tooDeep (c :: rest))
      else if c == '\x7b' then
        match depth with
        | depth + 2 => do
          let (members, rest) ← readObject (readValue (depth + 1)) rest
          return (.object (ofMembers members), rest)
        | _ => .error (.within .tooDeep (c :: rest))
      else
        readScalar c rest

/-- The fault of a value of the wrong kind. A value that is no array and no object is read
first, and a fault in it comes before. -/
def wrongType (expected : String) (text : List Char) : Fault :=
  match text with
  | [] => .within .expectedValue []
  | '[' :: _ => .before (.wrongType .sequence expected) text
  | '\x7b' :: _ => .before (.wrongType .mapping expected) text
  | c :: rest =>
    match readScalar c rest with
    | .error fault => fault
    | .ok (value, rest) =>
      let found : Found := match value with
        | .boolean value => .boolean value
        | .number value => .number value
        | .string value => .string value
        | _ => .null
      .before (.wrongType found expected) rest

/-- Reads a string value. -/
def readText : Reader String := fun text =>
  match skipSpace text with
  | [] => .error (.within .endInValue [])
  | '"' :: rest => readString rest
  | other => .error (wrongType "a string" other)

/-- Reads a truth value. -/
def readFlag : Reader Bool := fun text =>
  match skipSpace text with
  | [] => .error (.within .endInValue [])
  | 't' :: rest => do return (true, ← readWord ['r', 'u', 'e'] rest)
  | 'f' :: rest => do return (false, ← readWord ['a', 'l', 's', 'e'] rest)
  | other => .error (wrongType "a boolean" other)

/-- Reads a value that may be `null`. -/
def readOptional {α : Type} (readSome : Reader α) : Reader (Option α) := fun text =>
  match skipSpace text with
  | 'n' :: rest => do return (none, ← readWord ['u', 'l', 'l'] rest)
  | other => do
    let (value, rest) ← readSome other
    return (some value, rest)

/-- Reads an array of values of one kind. -/
def readList {α : Type} (depth : Nat) (readItem : Nat → Reader α) : Reader (List α) := fun text =>
  match skipSpace text with
  | [] => .error (.within .endInValue [])
  | '[' :: rest =>
    match depth with
    | depth + 2 => readArray (readItem (depth + 1)) rest
    | _ => .error (.within .tooDeep ('[' :: rest))
  | other => .error (wrongType "a sequence" other)

/-- Reads a text that holds one value and nothing else but blanks. -/
def readWhole {α : Type} (read : Reader α) (text : String) : Except Fault α := do
  let (value, rest) ← read text.toList
  match skipSpace rest with
  | [] => return value
  | other => .error (.within .trailingCharacters other)

end ClassroomClient.Json
