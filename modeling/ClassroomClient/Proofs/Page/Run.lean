/-
# Runs of the page

What the client does to a page after it was loaded: it renders notifications, carries out actions,
takes over edited files, chooses tests and writes what it has downloaded into regions. A run is a
list of such happenings in any order. `after` is the page at its end, and `history` is what a reader
of the run would note down: the notifications and the actions, with whether the page accepted them.
-/

import ClassroomClient.Client.Basic

namespace ClassroomClient

open Exchange

namespace Page

/-- What can happen to a page. -/
inductive Happening
  | rendered (now : Int) (notification : Notification)
  /-- An action is carried out or refused. -/
  | acted (team : String) (action : Action)
  | edited (filename content : String)
  | selected (tests : List String)
  /-- The text of a region is replaced. -/
  | written (name text : String)

/-- The notification that is rendered, if one is. -/
def Happening.notification? : Happening → Option Notification
  | .rendered _ notification => some notification
  | _ => none

/-- The page after something has happened. -/
def perform (page : Page) : Happening → Page
  | .rendered now notification => (page.render now notification).1
  | .acted team action => (Submission.prepare team page action).1
  | .edited filename content => page.setContent filename content
  | .selected tests => page.selectTests tests
  | .written name text => page.setRegion name text

/-- The page at the end of a run. -/
def after (page : Page) (happenings : List Happening) : Page :=
  happenings.foldl perform page

/-- What is noted down of a run. -/
inductive Entry
  | rendered (notification : Notification)
  | accepted (action : Action)
  | refused (action : Action)

/-- What is noted down when something happens to a page. -/
def entry? (page : Page) : Happening → Option Entry
  | .rendered _ notification => some (.rendered notification)
  | .acted team action =>
    match (Submission.prepare team page action).2 with
    | .ok _ => some (.accepted action)
    | .error _ => some (.refused action)
  | _ => none

/-- What is noted down of a run, from the first to the last. -/
def history (page : Page) : List Happening → List Entry
  | [] => []
  | happening :: rest => (page.entry? happening).toList ++ history (page.perform happening) rest

@[simp] theorem after_cons (page : Page) (happening : Happening) (rest : List Happening) :
    page.after (happening :: rest) = (page.perform happening).after rest := rfl

theorem after_append (page : Page) (earlier later : List Happening) :
    page.after (earlier ++ later) = (page.after earlier).after later := List.foldl_append

/-- The page accepts an action of which the control is enabled. -/
theorem acted_of_enabled {page : Page} {action : Action} (henabled : page.isDisabled action = false)
    (team : String) :
    page.perform (.acted team action) = Submission.pageAfter page action ∧
      page.entry? (.acted team action) = some (.accepted action) := by
  simp [perform, entry?, Submission.prepare, henabled]

/-- A disabled control refuses its action, which leaves the page as it is. -/
theorem acted_of_disabled {page : Page} {action : Action}
    (hdisabled : page.isDisabled action = true) (team : String) :
    page.perform (.acted team action) = page ∧
      page.entry? (.acted team action) = some (.refused action) := by
  simp [perform, entry?, Submission.prepare, hdisabled]

end Page

/-! ## Pages at the start -/

/-- A loaded page has been made from an empty one by adding fresh editors. -/
theorem loadPage_induction {motive : Page → Prop} {read : FileReader} {files : List FileSpec}
    {page : Page} (hload : loadPage read files = .ok page) (hempty : motive Page.empty)
    (hadd : ∀ page name kind content, motive page →
      motive (page.addEditor (.fresh name kind content))) : motive page := by
  have hfold (specs : List FileSpec) (start : Page) (hstart : motive start)
      (h : specs.foldlM (fun page spec => do
        let content ← readFile read spec.path
        return page.addEditor (.fresh (displayName spec.path) spec.kind content)) start =
          (.ok page : Except ConfigError Page)) : motive page := by
    induction specs generalizing start with
    | nil =>
        cases h
        exact hstart
    | cons spec rest ih =>
        rw [List.foldlM_cons] at h
        cases hread : readFile read spec.path with
        | error error =>
            rw [hread] at h
            cases h
        | ok content =>
            rw [hread] at h
            exact ih _ (hadd start _ _ content hstart) h
  exact hfold files Page.empty hempty hload

end ClassroomClient
