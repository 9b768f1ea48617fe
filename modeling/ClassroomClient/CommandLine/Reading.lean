/-
# Reading the command line

Options are read from left to right. The value of an option stands in the same word or in the
next one, and an option is complete only when the next one begins. No other words are taken,
and nothing is an option behind a word of two hyphens.
-/

import ClassroomClient.CommandLine.Options
import ClassroomClient.Text.Similarity

namespace ClassroomClient.CommandLine

/-- Why a command line is refused. -/
inductive UsageError
  /-- A word that is no option, with the option that may have been meant and the options for
  the line that shows the usage. -/
  | unexpected (word : String) (similar : Option Opt) (shown : List Opt)
  /-- A value for an option that takes none. -/
  | needlessValue (value : String) (option : Opt) (shown : List Opt)
  | missingValue (option : Opt)
  | repeated (option : Opt)
  deriving DecidableEq, Repr, Inhabited

namespace UsageError

/-- What is wrong. -/
def reason : UsageError → String
  | unexpected word _ _ => s!"unexpected argument '{word}' found"
  | needlessValue value option _ =>
    s!"unexpected value '{value}' for '{option.display}' found; no more were expected"
  | missingValue option =>
    s!"a value is required for '{option.display}' but none was supplied"
  | repeated option => s!"the argument '{option.display}' cannot be used multiple times"

/-- The hint at the option that may have been meant. -/
def tip : UsageError → String
  | unexpected _ (some option) _ =>
    s!"\n\n  tip: a similar argument exists: '--{option.long}'"
  | _ => ""

/-- The line that shows the usage. A missing value has none. -/
def usageLine : UsageError → String
  | unexpected _ _ shown | needlessValue _ _ shown => "\n\n" ++ usage shown
  | repeated _ => "\n\n" ++ usage []
  | missingValue _ => ""

/-- The whole message. -/
def message (error : UsageError) : String :=
  s!"error: {error.reason}" ++ error.tip ++ error.usageLine ++
    "\n\nFor more information, try '--help'.\n"

end UsageError

/-- The options that have been read so far. -/
structure Reading where
  /-- The complete options with their values, in order. -/
  given : List (Opt × String) := []
  /-- The last option, with its value if that has been read. -/
  last : Option (Opt × Option String) := none
  deriving DecidableEq, Repr, Inhabited

namespace Reading

/-- The options that have been given, each once. -/
def used (reading : Reading) : List Opt :=
  (reading.given.map (·.1)).eraseDups

/-- Adds a complete option. One that is given too often does not count at all. -/
def add (reading : Reading) (option : Opt) (value : String) : Reading × Option UsageError :=
  if !option.repeats && reading.used.contains option then
    ({ reading with given := reading.given.filter (·.1 != option) }, some (.repeated option))
  else ({ reading with given := reading.given ++ [(option, value)] }, none)

/-- Completes the last option. -/
def complete (reading : Reading) : Reading × Option UsageError :=
  let done := { reading with last := none }
  match reading.last with
  | none => (done, none)
  | some (option, none) => (done, some (.missingValue option))
  | some (option, some value) => done.add option value

/-- Completes the last option or fails. -/
def completed (reading : Reading) : Except UsageError Reading :=
  match reading.complete with
  | (_, some error) => .error error
  | (reading, none) => .ok reading

/-- Begins an option that takes a value. -/
def begin (reading : Reading) (option : Opt) (value : Option String) :
    Except UsageError Reading := do
  let reading ← reading.completed
  match value with
  | none => return { reading with last := some (option, none) }
  | some value =>
    match reading.add option value with
    | (_, some error) => .error error
    | (reading, none) => return reading

end Reading

/-- What a command line asks for. -/
inductive Request
  | help
  | options (given : List (Opt × String))
  deriving DecidableEq, Repr, Inhabited

/-- How similar an option must be to be hinted at. -/
def leastSimilarity : Float := 0.7

/-- The option whose name is most similar to a name, if any is similar. Of equally similar ones
the last. -/
def similar? (name : List Char) : Option Opt :=
  (Opt.all.foldl (fun best option =>
    let similarity := Text.jaro name option.long.toList
    if similarity > leastSimilarity then
      match best with
      | some (_, most) => if most > similarity then best else some (option, similarity)
      | none => some (option, similarity)
    else best) (none : Option (Opt × Float))).map (·.1)

/-- The error for a long name that no option has. -/
def unknownLong (reading : Reading) (name : List Char) : UsageError :=
  let used := reading.complete.1.used
  let similar := similar? name
  let shown := match similar with
    | some option => if used.contains option then used else used ++ [option]
    | none => used
  .unexpected ("--" ++ String.ofList name) similar shown

/-- What the words ask for when no more of them can be options. -/
def readBare (reading : Reading) : List String → Except UsageError Request
  | [] => return .options (← reading.completed).given
  | word :: _ => .error (.unexpected word none [])

/-- What one word is. -/
inductive Word
  | terminator
  | long (name : List Char) (value : Option String)
  /-- A letter behind a hyphen, with the characters behind it. -/
  | short (letter : Char) (rest : List Char)
  | plain

/-- Tells apart the kinds of words. A lone hyphen is a plain word. -/
def Word.ofText (text : String) : Word :=
  match text.toList with
  | ['-', '-'] => .terminator
  | '-' :: '-' :: chars =>
    let name := chars.takeWhile (· != '=')
    match chars.dropWhile (· != '=') with
    | [] => .long name none
    | _ :: value => .long name (some (String.ofList value))
  | '-' :: letter :: rest => .short letter rest
  | _ => .plain

/-- The value that stands behind a letter. An equals sign before it does not belong to it. -/
def attachedValue : List Char → Option String
  | [] => none
  | '=' :: value => some (String.ofList value)
  | value => some (String.ofList value)

/-- Reads words from left to right. -/
def readWords (reading : Reading) : List String → Except UsageError Request
  | [] => return .options (← reading.completed).given
  | word :: rest =>
    match Word.ofText word with
    | .terminator => readBare reading rest
    | .long name value =>
      match Opt.ofLong? name with
      | none => .error (unknownLong reading name)
      | some .help =>
        match value with
        | none => do
          let _ ← reading.completed
          return .help
        | some value => .error (.needlessValue value .help (reading.used ++ [.help]))
      | some option => do readWords (← reading.begin option value) rest
    | .short letter attached =>
      match Opt.ofShort? letter with
      | none => .error (.unexpected (String.ofList ['-', letter]) none [])
      | some .help => do
        let _ ← reading.completed
        return .help
      | some option => do readWords (← reading.begin option (attachedValue attached)) rest
    | .plain =>
      match reading.last with
      | some (option, none) =>
        readWords { reading with last := some (option, some word) } rest
      | _ => .error (.unexpected word none [])

/-- Reads a command line. -/
def read (arguments : List String) : Except UsageError Request :=
  readWords {} arguments

end ClassroomClient.CommandLine
