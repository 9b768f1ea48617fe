/-
# What is printed

The texts that the client prints: regions with their tabs, the page as a whole, confirmations
and notices.
-/

import ClassroomClient.Calendar
import ClassroomClient.Page.Basic

namespace ClassroomClient.Display

open Exchange

/-- The line above and below a page. -/
def rule : String := "".pushn '=' 60

/-- The line above and below a region. -/
def thinRule : String := "".pushn '-' 60

/-- The mark of a tab color. -/
def mark : TabColor → String
  | .neutral => " "
  | .affirmative => "+"
  | .negative => "x"

/-- A region under its tab. -/
def region (name : String) (color : TabColor) (text : String) : String :=
  let shown := if text.isEmpty then "(empty)" else text
  s!"\n{thinRule}\n[{mark color}] {name}\n{shown}\n{thinRule}\n"

/-- The line of an editor, with what restricts it. -/
def editor (page : Page) (editor : Editor) : String :=
  let flags :=
    (if editor.readOnly then ["readonly"] else []) ++
    (if editor.locked then ["locked"] else []) ++
    (if page.isGreyed editor.filename then ["greyed"] else [])
  let suffix := if flags.isEmpty then "" else " [" ++ ", ".intercalate flags ++ "]"
  s!"{editor.filename} ({editor.kind.label}){suffix}\n"

/-- The whole page: editors, disabled controls, every region and the last update. -/
def page (page : Page) : String :=
  let editors :=
    if page.editors.isEmpty then "(No files)\n"
    else String.join (page.editors.map (editor page))
  let disabled := (Action.all.filter page.isDisabled).map Action.name
  let controls := if disabled.isEmpty then "" else "Disabled: " ++ ", ".intercalate disabled ++ "\n"
  let regions := page.regions.entries.map fun (name, text) => region name (page.tabColor name) text
  let update := match page.updatedAt with
    | some millis => s!"updated at {Calendar.timestamp millis}\n"
    | none => ""
  s!"\n{rule}\nEditors:\n{editors}{controls}{String.join regions}{update}{rule}\n"

/-- The confirmation of a request that was sent. -/
def sent (action : Action) (request : Request) (millis : Int) : String :=
  let tests := match request.tests with
    | some [] => " tests: (none selected)"
    | some names => " tests: " ++ ", ".intercalate names
    | none => ""
  let count := String.ofList (Text.decimal request.source.length)
  s!"{action.name} sent with {count} file(s){tests} at {Calendar.timestamp millis}\n"

/-- The notice that the page was reloaded for a new round. -/
def reloaded (count : Nat) : String :=
  s!"\n* New round started, page reloaded ({String.ofList (Text.decimal count)})\n"

/-- The notice that the page was locked. -/
def locked : String :=
  "\n* Submissions are closed: editors and controls are locked\n"

/-- An error. -/
def error (message : String) : String :=
  s!"\n! {message}\n"

end ClassroomClient.Display
