/-
# Passing over values

The value of an unknown member is checked against the grammar and otherwise ignored. Unlike a
value that is kept it may nest to any depth and its numbers to any size, so the open brackets
are kept in a list.
-/

import ClassroomClient.Json.Reader

namespace ClassroomClient.Json

/-- A container that is open. -/
inductive Container
  | array
  | object
  deriving DecidableEq, Repr

/-- What must follow. -/
inductive Expecting
  | value
  | item (afterOpening : Bool)
  deriving DecidableEq, Repr

/-- Passes over the digits of an exponent, behind its letter. -/
def skipExponent (text : List Char) : Except Fault (List Char) :=
  let digits := match text with
    | '+' :: rest => rest
    | '-' :: rest => rest
    | _ => text
  match digits with
  | [] => .error (.before .invalidNumber [])
  | c :: rest =>
    if c.isDigit then .ok (rest.dropWhile Char.isDigit)
    else .error (.within .invalidNumber digits)

/-- Passes over what may follow the digits of a number. -/
def skipNumberTail (text : List Char) : Except Fault (List Char) :=
  match text with
  | '.' :: digits =>
    match digits.takeWhile Char.isDigit, digits.dropWhile Char.isDigit with
    | [], rest => .error (.within .invalidNumber rest)
    | _, 'e' :: rest => skipExponent rest
    | _, 'E' :: rest => skipExponent rest
    | _, rest => .ok rest
  | 'e' :: rest => skipExponent rest
  | 'E' :: rest => skipExponent rest
  | _ => .ok text

/-- Passes over a number behind its sign. -/
def skipNumber (text : List Char) : Except Fault (List Char) :=
  match text with
  | '0' :: rest =>
    match rest with
    | c :: _ => if c.isDigit then .error (.within .invalidNumber rest) else skipNumberTail rest
    | [] => .ok []
  | c :: rest =>
    if c.isDigit then skipNumberTail (rest.dropWhile Char.isDigit)
    else .error (.within .invalidNumber text)
  | [] => .error (.before .invalidNumber [])

/-- Passes over a string behind its opening quote. Escapes are checked for their form, not for
what they stand for. The fuel bounds the number of characters. -/
def skipChars : Nat → List Char → Except Fault (List Char)
  | 0, text => .error (.before .endInString text)
  | fuel + 1, text =>
    match text with
    | [] => .error (.before .endInString [])
    | '"' :: rest => .ok rest
    | '\\' :: rest =>
      match rest with
      | [] => .error (.before .endInString [])
      | 'u' :: digits => do
        let (_, rest) ← readHexUnit digits
        skipChars fuel rest
      | letter :: after =>
        if (simpleEscape? letter).isSome then skipChars fuel after
        else .error (.within .invalidEscape rest)
    | c :: rest =>
      if c.toNat < 0x20 then .error (.before .controlCharacter text) else skipChars fuel rest

/-- Passes over a string behind its opening quote. -/
def skipString (text : List Char) : Except Fault (List Char) :=
  skipChars (text.length + 1) text

/-- Passes over a value that opens no container, of which the first character is seen. -/
def skipScalar (c : Char) (rest : List Char) : Except Fault (List Char) :=
  match c with
  | 'n' => readWord ['u', 'l', 'l'] rest
  | 't' => readWord ['r', 'u', 'e'] rest
  | 'f' => readWord ['a', 'l', 's', 'e'] rest
  | '-' => skipNumber rest
  | '"' => skipString rest
  | _ =>
    if c.isDigit then skipNumber (c :: rest) else .error (.within .expectedValue (c :: rest))

/-- Passes over the name of a member and its colon, when the container has names. -/
def skipName (container : Container) (text : List Char) : Except Fault (List Char) :=
  match container with
  | .array => .ok text
  | .object =>
    match skipSpace text with
    | [] => .error (.within .endInObject [])
    | '"' :: rest => do readColon (← skipString rest)
    | other => .error (.within .nameNotString other)

/-- Passes over what is expected and all that is still open. The fuel bounds the steps. -/
def skipLoop : Nat → Expecting → List Container → List Char → Except Fault (List Char)
  | 0, _, _, text => .error (.before .endInValue text)
  | fuel + 1, .value, opened, text =>
    match skipSpace text with
    | [] => .error (.within .endInValue [])
    | '[' :: rest => skipLoop fuel (.item true) (.array :: opened) rest
    | '\x7b' :: rest => skipLoop fuel (.item true) (.object :: opened) rest
    | c :: rest => do
      let rest ← skipScalar c rest
      skipLoop fuel (.item false) opened rest
  | _ + 1, .item _, [], text => .ok text
  | fuel + 1, .item afterOpening, container :: opened, text =>
    match skipSpace text, container with
    | [], .array => .error (.within .endInArray [])
    | [], .object => .error (.within .endInObject [])
    | ']' :: rest, .array => skipLoop fuel (.item false) opened rest
    | '\x7d' :: rest, .object => skipLoop fuel (.item false) opened rest
    | c :: rest, container =>
      if afterOpening then do
        let text ← skipName container (c :: rest)
        skipLoop fuel .value (container :: opened) text
      else if c == ',' then do
        let text ← skipName container rest
        skipLoop fuel .value (container :: opened) text
      else
        match container with
        | .array => .error (.within .expectedCommaOrArrayEnd (c :: rest))
        | .object => .error (.within .expectedCommaOrObjectEnd (c :: rest))

/-- Passes over one value of any kind. -/
def skipValue (text : List Char) : Except Fault (List Char) :=
  skipLoop (2 * text.length + 2) .value [] text

end ClassroomClient.Json
