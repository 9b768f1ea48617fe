/-
# Options of the command line

The options that the client is started with, their names and values, and the help text.
-/

import ClassroomClient.Config

namespace ClassroomClient.CommandLine

/-- An option. -/
inductive Opt
  | url
  | team
  | rankings
  | files
  | help
  deriving DecidableEq, Repr, Inhabited

namespace Opt

/-- All options in the order of the help text. -/
def all : List Opt := [url, team, rankings, files, help]

/-- The name behind two hyphens. -/
def long : Opt → String
  | url => "url"
  | team => "team"
  | rankings => "rankings"
  | files => "file"
  | help => "help"

/-- The letter behind one hyphen. -/
def short : Opt → Char
  | url => 'u'
  | team => 't'
  | rankings => 'r'
  | files => 'f'
  | help => 'h'

/-- The name of the value, if the option takes one. -/
def valueName? : Opt → Option String
  | url => some "URL"
  | team => some "TEAM"
  | rankings => some "RANKINGS"
  | files => some "FILES"
  | help => none

/-- Whether the option may be given more than once. -/
def repeats : Opt → Bool
  | files => true
  | _ => false

/-- The value that is taken if the option is not given. -/
def default? : Opt → Option String
  | url => some Config.defaultUrl
  | team => some Config.defaultTeam
  | _ => none

/-- What the option is for. -/
def purpose : Opt → String
  | url => "HTTP base URL of the server"
  | team => "Team name sent with every request"
  | rankings => "Path of the rankings page to keep refreshed"
  | files => "Assignment file as \x60path[:type]\x60 (type: edit, readonly, task, test)"
  | help => "Print help"

/-- The option with the name of its value. -/
def display (option : Opt) : String :=
  match option.valueName? with
  | some value => s!"--{option.long} <{value}>"
  | none => "--" ++ option.long

/-- The option of a long name. -/
def ofLong? (name : List Char) : Option Opt :=
  all.find? fun option => option.long.toList == name

/-- The option of a letter. -/
def ofShort? (letter : Char) : Option Opt :=
  all.find? fun option => option.short == letter

/-- The left column of the help text. -/
def column (option : Opt) : String := s!"-{option.short}, {option.display}"

/-- The line of the option in the help text. -/
def helpLine (option : Opt) : String :=
  let width := (all.map fun other => other.column.length).foldl max 0
  let gap := String.ofList (List.replicate (width - option.column.length + 2) ' ')
  let default := match option.default? with
    | some value => s!" [default: {value}]"
    | none => ""
  s!"  {option.column}{gap}{option.purpose}{default}\n"

end Opt

/-- The name of the program. -/
def program : String := "moj-client"

/-- How the program is called, with the given options or with any. -/
def usage (options : List Opt) : String :=
  let given := if options.isEmpty then ["[OPTIONS]"] else options.map Opt.display
  s!"Usage: {program} " ++ String.intercalate " " given

/-- The help text. -/
def help : String :=
  "Submit code and follow compile/test feedback from the classroom server\n\n" ++
  usage [] ++ "\n\nOptions:\n" ++ String.join (Opt.all.map Opt.helpLine)

end ClassroomClient.CommandLine
