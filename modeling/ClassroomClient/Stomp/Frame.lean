/-
# STOMP frames

One frame travels in one text message: a command line, header lines, an empty line, a body
and a NUL. `Frame.encode` writes that form and `Frame.parse` reads it. A message of line ends
alone is a heart-beat and holds no frame. The body ends where the `content-length` header
says, in bytes, or else at the first NUL. Text after the body is ignored.
-/

import ClassroomClient.Text.Blank
import ClassroomClient.Text.Decimal
import ClassroomClient.Text.Utf8
import ClassroomClient.Stomp.Header

namespace ClassroomClient.Stomp

/-- The commands that the two sides exchange. -/
inductive Command
  | connect
  | connected
  | send
  | subscribe
  | message
  | receipt
  | error
  | disconnect
  deriving DecidableEq, Repr, Inhabited

namespace Command

/-- The word that stands for the command on the wire. -/
def wireName : Command → String
  | connect => "CONNECT"
  | connected => "CONNECTED"
  | send => "SEND"
  | subscribe => "SUBSCRIBE"
  | message => "MESSAGE"
  | receipt => "RECEIPT"
  | error => "ERROR"
  | disconnect => "DISCONNECT"

/-- Reads a command word. `STOMP` is another spelling of `CONNECT`. -/
def ofWireName? : String → Option Command
  | "CONNECT" => some connect
  | "STOMP" => some connect
  | "CONNECTED" => some connected
  | "SEND" => some send
  | "SUBSCRIBE" => some subscribe
  | "MESSAGE" => some message
  | "RECEIPT" => some receipt
  | "ERROR" => some error
  | "DISCONNECT" => some disconnect
  | _ => none

/-- The two handshake frames carry their headers unescaped, all others escape them. -/
def escapesHeaders : Command → Bool
  | connect => false
  | connected => false
  | _ => true

end Command

/-- Why a text message is no frame. -/
inductive FrameError
  | truncated
  | unknownCommand (name : String)
  | malformedHeader (line : String)
  | invalidEscape (pair : String)
  | invalidContentLength (text : String)
  deriving DecidableEq, Repr, Inhabited

/-- The wording of a frame error. -/
def FrameError.message : FrameError → String
  | truncated => "Frame ended before the header block was complete"
  | unknownCommand name => s!"Unknown STOMP command '{name}'"
  | malformedHeader line => s!"Malformed header line '{line}'"
  | invalidEscape pair => s!"Invalid header escape sequence '{pair}'"
  | invalidContentLength text => s!"Invalid content-length '{text}'"

/-- A frame. Headers stand in wire order; repeated headers are kept. -/
structure Frame where
  command : Command
  headers : List Header
  body : String
  deriving DecidableEq, Repr, Inhabited

namespace Frame

/-- A frame with headers and no body. -/
def bare (command : Command) (headers : List (String × String)) : Frame :=
  { command, headers := headers.map fun (name, value) => { name, value }, body := "" }

/-- The first value of the named header. -/
def header? (frame : Frame) (name : String) : Option String :=
  lookup? frame.headers name

/-- The name of the header that gives the size of the body in bytes. -/
def contentLength : String := "content-length"

/-- One header line without its line end. -/
def headerLine (escaped : Bool) (header : Header) : List Char :=
  if escaped then
    escape header.name.toList ++ ':' :: escape header.value.toList
  else
    header.name.toList ++ ':' :: header.value.toList

/-- The headers with the size of the body added, unless the body is empty or the headers give
a size already. -/
def wireHeaders (frame : Frame) : List Header :=
  if frame.body.isEmpty || (frame.header? contentLength).isSome then
    frame.headers
  else
    frame.headers ++
      [{ name := contentLength
         value := String.ofList (Text.decimal (Text.utf8Length frame.body.toList)) }]

/-- The header block: every header line with its line end, without the empty line. -/
def headerBlock (escaped : Bool) (headers : List Header) : List Char :=
  headers.flatMap fun header => headerLine escaped header ++ ['\n']

/-- The text message of a frame, with the NUL that ends it. -/
def encode (frame : Frame) : String :=
  String.ofList <|
    frame.command.wireName.toList ++ '\n' ::
      (headerBlock frame.command.escapesHeaders frame.wireHeaders ++
        '\n' :: (frame.body.toList ++ ['\x00']))

/-- Splits a text at its first line feed. There is nothing to split in a text without one. -/
def splitLine? : List Char → Option (List Char × List Char)
  | [] => none
  | '\n' :: rest => some ([], rest)
  | c :: rest => (splitLine? rest).map fun (line, after) => (c :: line, after)

theorem length_lt_of_splitLine? {text line rest : List Char}
    (h : splitLine? text = some (line, rest)) : rest.length < text.length := by
  fun_induction splitLine? text generalizing line with
  | case1 => simp at h
  | case2 => simp_all
  | case3 c tail _ ih =>
    obtain ⟨pair, hpair, heq⟩ := Option.map_eq_some_iff.1 h
    obtain ⟨rfl, rfl⟩ : c :: pair.1 = line ∧ pair.2 = rest := by simpa using heq
    exact Nat.lt_succ_of_lt (ih hpair)

/-- A line without the carriage returns at its end. -/
def dropReturns (line : List Char) : List Char :=
  Text.dropTrailing (· == '\r') line

/-- Splits a header line at its first colon. -/
def splitColon? : List Char → Option (List Char × List Char)
  | [] => none
  | ':' :: rest => some ([], rest)
  | c :: rest => (splitColon? rest).map fun (name, value) => (c :: name, value)

/-- Reads a name or a value as the command's frames write it. -/
def readHeaderText (escaped : Bool) (text : List Char) : Except FrameError String :=
  if escaped then
    match unescape text with
    | .ok chars => .ok (String.ofList chars)
    | .error pair => .error (.invalidEscape (String.ofList pair))
  else
    .ok (String.ofList text)

/-- Reads one header line. -/
def readHeader (escaped : Bool) (line : List Char) : Except FrameError Header :=
  match splitColon? line with
  | none => .error (.malformedHeader (String.ofList line))
  | some (name, value) => do
    let name ← readHeaderText escaped name
    let value ← readHeaderText escaped value
    return { name, value }

/-- Reads header lines up to the empty line, and returns the text behind it. -/
def readHeaders (escaped : Bool) (text : List Char) :
    Except FrameError (List Header × List Char) :=
  match _h : splitLine? text with
  | none => .error .truncated
  | some (line, rest) =>
    match dropReturns line with
    | [] => .ok ([], rest)
    | shown =>
      match readHeader escaped shown with
      | .error fault => .error fault
      | .ok header =>
        match readHeaders escaped rest with
        | .error fault => .error fault
        | .ok (headers, body) => .ok (header :: headers, body)
termination_by text.length
decreasing_by exact length_lt_of_splitLine? ‹_›

/-- Cuts the body out of the text behind the empty line. A length that is no size is named as the
header has it, a size that the text cannot be cut at as the number that was read. -/
def readBody (headers : List Header) (text : List Char) : Except FrameError String :=
  match lookup? headers contentLength with
  | none => .ok (String.ofList (text.takeWhile (· != '\x00')))
  | some length =>
    match Text.readSize? (Text.trim length.toList) with
    | none => .error (.invalidContentLength length)
    | some size =>
      match Text.takeUtf8? size text with
      | none => .error (.invalidContentLength (String.ofList (Text.decimal size)))
      | some body => .ok (String.ofList body)

/-- The characters that end lines. -/
def isLineEnd (c : Char) : Bool := c == '\r' || c == '\n'

/-- Reads one frame from a text message that has no line ends in front. -/
def parseFrame (text : List Char) : Except FrameError Frame :=
  match splitLine? text with
  | none => .error .truncated
  | some (line, rest) =>
    let name := String.ofList (dropReturns line)
    match Command.ofWireName? name with
    | none => .error (.unknownCommand name)
    | some command => do
      let (headers, text) ← readHeaders command.escapesHeaders rest
      let body ← readBody headers text
      return { command, headers, body }

/-- Reads a text message. A heart-beat gives no frame. -/
def parse (message : String) : Except FrameError (Option Frame) :=
  match message.toList.dropWhile isLineEnd with
  | [] => .ok none
  | ['\x00'] => .ok none
  | text => (parseFrame text).map some

end Frame

end ClassroomClient.Stomp
