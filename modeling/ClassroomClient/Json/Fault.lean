/-
# Why a text is refused

A text can fail the grammar of JSON, or be JSON of another kind than the reader expects. Both
are reported with a line and a column. A reader knows only the text that is left, so a fault
keeps the number of bytes behind its position, and the whole text turns that into a line and a
column in bytes.
-/

import ClassroomClient.Json.Number
import ClassroomClient.Text.Quoted
import ClassroomClient.Text.Utf8

namespace ClassroomClient.Json

/-- What was read where something else was expected. -/
inductive Found
  | null
  | boolean (value : Bool)
  | number (value : Number)
  | string (value : String)
  | sequence
  | mapping
  deriving DecidableEq, Repr

/-- The wording of what was read. -/
def Found.message : Found → String
  | null => "null"
  | boolean true => "boolean `true`"
  | boolean false => "boolean `false`"
  | number (.integer value) => s!"integer `{String.ofList (Text.signedDecimal value)}`"
  | number (.real value) => s!"floating point `{String.ofList (Number.realText value)}`"
  | string value => s!"string {Text.quoted value}"
  | sequence => "sequence"
  | mapping => "map"

/-- The causes for which a text is refused. -/
inductive Cause
  | endInArray
  | endInObject
  | endInString
  | endInValue
  | expectedColon
  | expectedCommaOrArrayEnd
  | expectedCommaOrObjectEnd
  | expectedWord
  | expectedValue
  | invalidEscape
  | invalidNumber
  | numberOutOfRange
  | controlCharacter
  | nameNotString
  | loneSurrogate
  | trailingComma
  | trailingCharacters
  | unfinishedSurrogate
  | tooDeep
  | wrongType (found : Found) (expected : String)
  | wrongLength (length : Nat) (expected : String)
  | duplicateField (name : String)
  | missingField (name : String)
  deriving DecidableEq, Repr

/-- The wording of a cause. -/
def Cause.message : Cause → String
  | endInArray => "EOF while parsing a list"
  | endInObject => "EOF while parsing an object"
  | endInString => "EOF while parsing a string"
  | endInValue => "EOF while parsing a value"
  | expectedColon => "expected `:`"
  | expectedCommaOrArrayEnd => "expected `,` or `]`"
  | expectedCommaOrObjectEnd => "expected `,` or `\x7d`"
  | expectedWord => "expected ident"
  | expectedValue => "expected value"
  | invalidEscape => "invalid escape"
  | invalidNumber => "invalid number"
  | numberOutOfRange => "number out of range"
  | controlCharacter => "control character (\\u0000-\\u001F) found while parsing a string"
  | nameNotString => "key must be a string"
  | loneSurrogate => "lone leading surrogate in hex escape"
  | trailingComma => "trailing comma"
  | trailingCharacters => "trailing characters"
  | unfinishedSurrogate => "unexpected end of hex escape"
  | tooDeep => "recursion limit exceeded"
  | wrongType found expected => s!"invalid type: {found.message}, expected {expected}"
  | wrongLength length expected =>
    s!"invalid length {String.ofList (Text.decimal length)}, expected {expected}"
  | duplicateField name => s!"duplicate field `{name}`"
  | missingField name => s!"missing field `{name}`"

/-- A cause with the number of bytes of the text that lie behind its position. -/
structure Fault where
  cause : Cause
  bytesLeft : Nat
  deriving DecidableEq, Repr

/-- A fault in front of the text that is left. -/
def Fault.before (cause : Cause) (rest : List Char) : Fault :=
  { cause, bytesLeft := Text.utf8Length rest }

/-- A fault one byte further on than the text that is left, or at its end. -/
def Fault.within (cause : Cause) (rest : List Char) : Fault :=
  { cause, bytesLeft := Text.utf8Length rest - 1 }

/-- The line and the column of the position in front of which `offset` bytes lie. Lines count
from one; the column is the number of bytes since the line began. -/
def positionAt (offset : Nat) (text : List Char) : Nat × Nat :=
  go offset text 1 0
where
  /-- Walks through the text until the offset is used up. -/
  go : Nat → List Char → Nat → Nat → Nat × Nat
    | _, [], line, column => (line, column)
    | left, c :: rest, line, column =>
      if left < c.utf8Size then (line, column + left)
      else if c == '\n' then go (left - c.utf8Size) rest (line + 1) 0
      else go (left - c.utf8Size) rest line (column + c.utf8Size)

/-- The wording of a fault in a text. -/
def Fault.message (text : String) (fault : Fault) : String :=
  let chars := text.toList
  let (line, column) := positionAt (Text.utf8Length chars - fault.bytesLeft) chars
  let shown (n : Nat) := String.ofList (Text.decimal n)
  s!"{fault.cause.message} at line {shown line} column {shown column}"

end ClassroomClient.Json
