/-
# The executable

Reads the files and the environment and prints how the program ends. It has no network: every
attempt to open a channel fails, so that a run ends before the first line is typed.
-/

import ClassroomClient.CommandLine.Launch
import ClassroomClient.Disk

namespace ClassroomClient

/-- The reason why a file could not be read. -/
def readFault (error : IO.Error) : String :=
  match error with
  | .noFileOrDirectory _ _ _ | .noSuchThing _ _ _ => ReadFault.notFound.message
  | .inappropriateType _ _ _ => ReadFault.isDirectory.message
  | other => toString other

/-- Reads a file as text. -/
def readTextFile (path : String) : IO (Except String String) := do
  try
    let bytes ← IO.FS.readBinFile path
    match String.fromUTF8? bytes with
    | some text => return .ok text
    | none => return .error ReadFault.notText.message
  catch error => return .error (readFault error)

/-- A reader for the files of a configuration as they are now. -/
def snapshot (files : List FileSpec) : IO FileReader := do
  let contents ← files.mapM fun spec => do return (spec.path, ← readTextFile spec.path)
  return fun path => (contents.lookup path).getD (.error ReadFault.notFound.message)

/-- Runs the program with the words of its command line and the filter of its environment. -/
def runProgram (arguments : List String) (filter : LogFilter) : IO UInt32 := do
  let files := match CommandLine.prepare arguments filter with
    | .ok config => config.files
    | .error _ => []
  let reader ← snapshot files
  let report := match CommandLine.launch arguments filter reader fun _ => .unreachable "" with
    | .error report => report
    | .ok (_, outputs) => { status := 0, output := Output.printed outputs }
  IO.print report.output
  IO.eprint report.errors
  return report.status.toUInt32

end ClassroomClient

/-- The entry point. -/
def main (arguments : List String) : IO UInt32 := do
  let filter ← IO.getEnv "RUST_LOG"
  ClassroomClient.runProgram arguments (ClassroomClient.CommandLine.filterOf filter)
