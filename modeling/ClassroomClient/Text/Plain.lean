/-
# Plain text

A text that is meant for a terminal can hold control characters and whole control sequences,
which start with the escape character. On any other stream they would be noise, so that only
what can be seen is written there: sequences are left out, and of the control characters only
the white space stays.
-/

import ClassroomClient.Text.Utf8

namespace ClassroomClient.Text

/-- How far a control sequence has been read. -/
inductive Sequence
  /-- No sequence has begun. -/
  | idle
  /-- The escape character has been read. -/
  | escape
  /-- A sequence of two or more characters without parameters. -/
  | intermediate
  /-- A sequence with parameters. -/
  | parameters
  /-- A command for the window, which the bell or a new sequence ends. -/
  | window
  /-- A message for the device. -/
  | message
  deriving DecidableEq, Repr, Inhabited

/-- White space among the control characters that is written. -/
def isLayout (c : Char) : Bool :=
  c == '\t' || c == '\n' || c == '\x0c' || c == '\x0d'

/-- The byte that ends a message for the device, also as a part of a character. -/
def messageEnd : UInt8 := 0x9C

namespace Sequence

/-- The sequence after one more character. -/
def next (sequence : Sequence) (c : Char) : Sequence :=
  if c == '\x1b' then escape
  else if c == '\x18' || c == '\x1a' then idle
  else
    match sequence with
    | idle => idle
    | escape =>
      if c < ' ' || '\x7f' ≤ c then escape
      else if c < '0' then intermediate
      else if c == '[' then parameters
      else if c == ']' then window
      else if ['P', 'X', '^', '_'].contains c then message
      else idle
    | intermediate => if '0' ≤ c && c < '\x7f' then idle else intermediate
    | parameters => if '@' ≤ c && c < '\x7f' then idle else parameters
    | window => if c == '\x07' then idle else window
    | message => if (utf8Bytes [c]).contains messageEnd then idle else message

/-- Whether a character is written although a sequence has begun. -/
def shows (sequence : Sequence) (c : Char) : Bool :=
  match sequence with
  | idle => isLayout c || (' ' ≤ c && c != '\x7f')
  | escape | intermediate | parameters => isLayout c
  | window | message => false

end Sequence

/-- The visible part of a text. White space within a sequence interrupts it: what follows is
written up to the next control character, and there the sequence goes on. -/
def visible (sequence : Sequence) (written : Bool) : List Char → List Char
  | [] => []
  | c :: rest =>
    if written || sequence.shows c then
      if Sequence.idle.shows c then
        c :: visible (if c.toNat < 0x80 then sequence else .idle) true rest
      else visible (sequence.next c) false rest
    else visible (sequence.next c) false rest

/-- The part of a text that is written to a stream that is no terminal. -/
def plain (text : List Char) : List Char :=
  visible .idle false text

end ClassroomClient.Text
