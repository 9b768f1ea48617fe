/-
# Frame headers and their escapes

A header is a name with a value. On the wire a backslash, a line feed, a carriage return and
a colon inside a name or a value are written as two-character escapes, so that line ends and
the first colon of a line keep their meaning. `unescape` accepts only those four escapes.
-/

namespace ClassroomClient.Stomp

/-- One header of a frame. -/
structure Header where
  name : String
  value : String
  deriving DecidableEq, Repr, Inhabited

/-- The first value that the headers give for a name. Later headers of that name are kept
but do not count. -/
def lookup? (headers : List Header) (name : String) : Option String :=
  (headers.find? (·.name == name)).map (·.value)

/-- Writes a header text so that it holds no line end and no colon. -/
def escape : List Char → List Char
  | [] => []
  | c :: rest =>
    match c with
    | '\\' => '\\' :: '\\' :: escape rest
    | '\n' => '\\' :: 'n' :: escape rest
    | '\r' => '\\' :: 'r' :: escape rest
    | ':' => '\\' :: 'c' :: escape rest
    | other => other :: escape rest

/-- The character that the letter after a backslash stands for. -/
def escapedChar? : Char → Option Char
  | '\\' => some '\\'
  | 'n' => some '\n'
  | 'r' => some '\r'
  | 'c' => some ':'
  | _ => none

/-- Reads a header text back. The error is the first pair that is no escape, or a backslash
at the end of the text. -/
def unescape : List Char → Except (List Char) (List Char)
  | [] => .ok []
  | ['\\'] => .error ['\\']
  | '\\' :: letter :: rest =>
    match escapedChar? letter with
    | some c => (unescape rest).map (c :: ·)
    | none => .error ['\\', letter]
  | c :: rest => (unescape rest).map (c :: ·)

end ClassroomClient.Stomp
