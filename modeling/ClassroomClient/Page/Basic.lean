/-
# The student page

What the student sees: editors, named text regions with the colors of their tabs, and the
controls for compiling, testing and submitting. The page changes through the operations of
this module only. `disable` locks it as a whole and only `reload` opens it again.
-/

import ClassroomClient.Dictionary
import ClassroomClient.Page.Editor
import ClassroomClient.Route

namespace ClassroomClient

/-- The color of a tab. -/
inductive TabColor
  | neutral
  | affirmative
  | negative
  deriving DecidableEq, Repr, Inhabited

/-- Success is affirmative, failure negative. -/
def TabColor.ofSuccess (success : Bool) : TabColor :=
  if success then affirmative else negative

/-- What the user can ask the server for, each with a control on the page. -/
inductive Action
  | compile
  | test
  | submit
  deriving DecidableEq, Repr, Inhabited

namespace Action

/-- All actions in the order of their controls. -/
def all : List Action := [compile, test, submit]

/-- The name of an action and of its control. -/
def name : Action → String
  | compile => "compile"
  | test => "test"
  | submit => "submit"

/-- Where the request of an action goes. -/
def destination : Action → String
  | compile => Route.compile
  | test => Route.test
  | submit => Route.submit

end Action

namespace Region

/-- The output of the compiler. -/
def output : String := "outputarea"

/-- Feedback that went to everyone. -/
def response : String := "response"

/-- The rankings table. -/
def rankings : String := "table"

/-- The listing of the assignment files. -/
def files : String := "files"

end Region

/-- The state of one student page. -/
structure Page where
  editors : List Editor
  regions : Dictionary String
  /-- The regions that hold the output of a test. -/
  testRegions : NameSet
  tabColors : Dictionary TabColor
  greyedTabs : NameSet
  /-- The actions of which the controls are disabled. -/
  disabled : List Action
  selectedTests : List String
  reloadCount : Nat
  updatedAt : Option Int
  deriving DecidableEq, Inhabited

namespace Page

/-- A page without anything on it. -/
def empty : Page where
  editors := []
  regions := .empty
  testRegions := .empty
  tabColors := .empty
  greyedTabs := .empty
  disabled := []
  selectedTests := []
  reloadCount := 0
  updatedAt := none

/-- Adds an editor behind the others. -/
def addEditor (page : Page) (editor : Editor) : Page :=
  { page with editors := page.editors ++ [editor] }

/-- Replaces the content of the first editor of that name. -/
def setFirstContent (filename content : String) : List Editor → List Editor
  | [] => []
  | editor :: rest =>
    if editor.filename = filename then { editor with content } :: rest
    else editor :: setFirstContent filename content rest

/-- Whether there is an editor of that name. -/
def hasEditor (page : Page) (filename : String) : Bool :=
  page.editors.any (·.filename == filename)

/-- Types a new content into the first editor of that name. -/
def setContent (page : Page) (filename content : String) : Page :=
  { page with editors := setFirstContent filename content page.editors }

/-- The files that a request carries, in the order of their editors. -/
def sources (page : Page) : List Exchange.SourceFile :=
  (page.editors.filter Editor.isSubmittable).map Editor.sourceFile

/-- The text of a region. -/
def region? (page : Page) (name : String) : Option String :=
  page.regions.find? name

/-- Replaces the text of a region. -/
def setRegion (page : Page) (name text : String) : Page :=
  { page with regions := page.regions.insert name text }

/-- Adds a line to a region. An empty region begins with it. -/
def appendRegion (page : Page) (name text : String) : Page :=
  let old := (page.region? name).getD ""
  page.setRegion name (if old.isEmpty then text else old ++ "\n" ++ text)

/-- Replaces the output of a test. -/
def setTestOutput (page : Page) (test text : String) : Page :=
  ({ page with testRegions := page.testRegions.add test }).setRegion test text

/-- Removes the output of every test, empties the compiler output and makes all tabs
neutral. -/
def clearTestOutputs (page : Page) : Page :=
  { page with
    regions :=
      (page.testRegions.keys.foldl (fun regions test => regions.erase test) page.regions).insert
        Region.output ""
    testRegions := .empty
    tabColors := page.tabColors.map fun _ => .neutral }

/-- The color of a tab. -/
def tabColor (page : Page) (tab : String) : TabColor :=
  (page.tabColors.find? tab).getD .neutral

/-- Colors a tab. -/
def setTabColor (page : Page) (tab : String) (color : TabColor) : Page :=
  { page with tabColors := page.tabColors.insert tab color }

/-- Locks every editor, greys its tab and disables all controls. -/
def disable (page : Page) : Page :=
  { page with
    editors := page.editors.map fun editor => { editor with locked := true }
    greyedTabs := page.editors.foldl (fun tabs editor => tabs.add editor.filename) page.greyedTabs
    disabled := Action.all }

/-- Whether the control of an action is disabled. -/
def isDisabled (page : Page) (action : Action) : Bool :=
  page.disabled.contains action

/-- Whether the tab of a file is grey. -/
def isGreyed (page : Page) (filename : String) : Bool :=
  page.greyedTabs.contains filename

/-- Checks the boxes of the given tests and of no others. -/
def selectTests (page : Page) (tests : List String) : Page :=
  { page with selectedTests := tests }

/-- Starts over with a freshly loaded page that keeps the files. -/
def reload (page : Page) : Page :=
  { page with
    editors := page.editors.map fun editor => { editor with locked := false }
    regions := .empty
    testRegions := .empty
    tabColors := .empty
    greyedTabs := .empty
    disabled := []
    selectedTests := []
    reloadCount := page.reloadCount + 1 }

/-- Notes when the page was last updated. -/
def touch (page : Page) (millis : Int) : Page :=
  { page with updatedAt := some millis }

end Page

end ClassroomClient
