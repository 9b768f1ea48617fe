/-
# The program

From the words of the command line to a client that is ready to start, or to the end of the
program: what it prints and the status with which it ends. Errors of the client are written to
the log, which a filter can silence.
-/

import ClassroomClient.Client.Basic
import ClassroomClient.CommandLine.Reading
import ClassroomClient.LogFilter
import ClassroomClient.Text.Plain

namespace ClassroomClient.CommandLine

/-- How the program ends. -/
structure Report where
  status : Nat
  output : String := ""
  errors : String := ""
  deriving DecidableEq, Repr, Inhabited

/-! ## The log -/

/-- The part of the program that writes to the log. -/
def logTarget : String := "moj_client"

/-- The record of an error of the client. -/
def errorRecord : LogRecord := { target := logTarget, level := .error, fields := ["message"] }

/-- The filter that is taken if none is given. -/
def defaultFilter : LogFilter :=
  { directives := [logTarget, "moj_shared"].map fun target =>
      { Directive.everything with target := some target.toList, threshold := some .info } }

/-- The filter of a text. A text that cannot be read is passed over. -/
def filterOf (text : Option String) : LogFilter :=
  (text.bind LogFilter.ofText?).getD defaultFilter

/-- Writes a character of a log message. Those that a terminal could obey are written as their
codes. -/
def logChar (c : Char) : List Char :=
  if ['\x1b', '\x07', '\x08', '\x0c', '\x7f'].contains c then
    "\\x".toList ++ Text.padZeros 2 (Nat.toDigits 16 c.toNat)
  else if 0x80 ≤ c.toNat && c.toNat ≤ 0x9F then
    "\\u\x7b".toList ++ Nat.toDigits 16 c.toNat ++ ['\x7d']
  else [c]

/-- The line of an error in the log, without a time. -/
def errorLine (filter : LogFilter) (message : String) : String :=
  if filter.shows errorRecord then
    s!"ERROR {logTarget}: " ++ String.ofList (message.toList.flatMap logChar) ++ "\n"
  else ""

/-! ## Start and end -/

/-- The configuration of the given options. Options that are not given have their defaults. -/
def configOf (given : List (Opt × String)) : Except ConfigError Config := do
  let value (option : Opt) : String := (given.lookup option <|> option.default?).getD ""
  let config ← Config.ofBase (value .url) (value .team)
  return { config with
    rankingsPath := given.lookup .rankings
    files := (given.filter (·.1 == .files)).map fun (_, spec) => FileSpec.ofText spec }

/-- The end of a program that was called in a wrong way. -/
def refusal (error : UsageError) : Report :=
  { status := 2, errors := String.ofList (Text.plain error.message.toList) }

/-- The end of a program without a configuration. -/
def misconfigured (filter : LogFilter) (error : ConfigError) : Report :=
  { status := 2, errors := errorLine filter error.message }

/-- The end of a program whose client has failed, after what it has printed. -/
def failed (filter : LogFilter) (output : String) (error : ClientError) : Report :=
  { status := 1, output, errors := errorLine filter s!"Client error: {error.message}" }

/-- What the program does before the client starts: it ends or has a configuration. -/
def prepare (arguments : List String) (filter : LogFilter) : Except Report Config :=
  match read arguments with
  | .error error => .error (refusal error)
  | .ok .help => .error { status := 0, output := help }
  | .ok (.options given) => (configOf given).mapError (misconfigured filter)

/-- Prepares and starts the client. A client that does not start ends the program. -/
def launch (arguments : List String) (filter : LogFilter) (read : FileReader)
    (attempt : Channel → Attempt) (meanwhile : Task → List Incident := fun _ => []) :
    Except Report (Client × List Output) := do
  let config ← prepare arguments filter
  match Client.start config read attempt meanwhile with
  | (.ok client, outputs) => return (client, outputs)
  | (.error error, outputs) => .error (failed filter (Output.printed outputs) error)

end ClassroomClient.CommandLine
