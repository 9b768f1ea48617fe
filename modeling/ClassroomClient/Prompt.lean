/-
# The command line at the prompt

What a typed line asks for. The first word is the command, in any case and for most commands
also by its first letter; the words behind `test` are the tests to run.
-/

import ClassroomClient.Page.Basic
import ClassroomClient.Text.Blank

namespace ClassroomClient

/-- A typed command. -/
inductive UserCommand
  | compile
  | test (names : List String)
  | submit
  | files
  | page
  | help
  | quit
  | unknown (text : String)
  deriving DecidableEq, Repr, Inhabited

namespace UserCommand

/-- The command that a word stands for, with the words behind it. -/
def ofWord? (word : String) (arguments : List String) : Option UserCommand :=
  match word with
  | "compile" | "c" => some compile
  | "test" | "t" => some (test arguments)
  | "submit" => some submit
  | "files" | "f" => some files
  | "show" | "s" => some page
  | "help" | "?" => some help
  | "quit" | "exit" | "q" => some quit
  | _ => none

/-- Reads a typed line. -/
def ofLine (line : String) : UserCommand :=
  match (Text.words line.toList).map String.ofList with
  | [] => unknown ""
  | word :: arguments =>
    let lower := String.ofList (word.toList.map Char.toLower)
    (ofWord? lower arguments).getD (unknown (String.ofList (Text.trim line.toList)))

/-- The name of the command. -/
def name : UserCommand → String
  | compile => "compile"
  | test _ => "test"
  | submit => "submit"
  | files => "files"
  | page => "show"
  | help => "help"
  | quit => "quit"
  | unknown _ => "unknown"

/-- The action that the command asks the server for. -/
def action? : UserCommand → Option Action
  | compile => some .compile
  | test _ => some .test
  | submit => some .submit
  | _ => none

end UserCommand

/-- The list of commands. -/
def helpText : String :=
  "Commands:\n" ++
  "  compile              compile the editable files\n" ++
  "  test [name ...]      run the named tests (none selected runs none)\n" ++
  "  submit               submit the solution; locks the page\n" ++
  "  files                list the assignment files\n" ++
  "  show                 print the page\n" ++
  "  quit                 disconnect and exit\n"

end ClassroomClient
