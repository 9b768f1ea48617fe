/-
# Contents that are withheld

Of the files on a page only those that are sent show their contents to anybody else. `redacted`
takes the contents of all other editors away. What happens to a page happens to the redacted page
too, also where an editor is found by a name that another one has, and neither the request of an
action nor the page as it is printed tells a page from its redacted one.
-/

import ClassroomClient.Proofs.Page.Run

namespace ClassroomClient

open Exchange

namespace Editor

/-- The editor without its content, unless its file is sent. -/
def redacted (editor : Editor) : Editor :=
  { editor with content := if editor.isSubmittable then editor.content else "" }

@[simp] theorem filename_redacted (editor : Editor) :
    editor.redacted.filename = editor.filename := rfl

@[simp] theorem isSubmittable_redacted (editor : Editor) :
    editor.redacted.isSubmittable = editor.isSubmittable := rfl

@[simp] theorem redacted_redacted (editor : Editor) :
    editor.redacted.redacted = editor.redacted := by
  cases hsubmittable : editor.isSubmittable <;> simp [redacted, hsubmittable]

/-- A file that is sent has its content to show. -/
theorem redacted_of_isSubmittable {editor : Editor} (hsubmittable : editor.isSubmittable = true) :
    editor.redacted = editor := by
  simp [redacted, hsubmittable]

end Editor

namespace Page

/-- The page without the contents of the files that are not sent. -/
def redacted (page : Page) : Page := { page with editors := page.editors.map Editor.redacted }

/-! ## What is seen of a page -/

theorem sources_redacted (page : Page) : page.redacted.sources = page.sources := by
  have hsent : ∀ editors : List Editor,
      ((editors.map Editor.redacted).filter Editor.isSubmittable).map Editor.sourceFile =
        (editors.filter Editor.isSubmittable).map Editor.sourceFile := by
    intro editors
    induction editors with
    | nil => rfl
    | cons editor rest ih =>
        cases hsubmittable : editor.isSubmittable with
        | true => simpa [hsubmittable, Editor.redacted_of_isSubmittable] using ih
        | false => simpa [hsubmittable] using ih
  exact hsent page.editors

theorem isDisabled_redacted (page : Page) (action : Action) :
    page.redacted.isDisabled action = page.isDisabled action := rfl

theorem reloadCount_redacted (page : Page) : page.redacted.reloadCount = page.reloadCount := rfl

theorem printRegion_redacted (page : Page) (name : String) :
    Client.printRegion page.redacted name = Client.printRegion page name := rfl

theorem request_redacted (page : Page) (team : String) (action : Action) :
    Submission.request team page.redacted action = Submission.request team page action := by
  unfold Submission.request
  rw [sources_redacted]
  rfl

/-- Editors are printed without their contents. -/
theorem display_redacted (page : Page) : Display.page page.redacted = Display.page page := by
  have hlines : page.redacted.editors.map (Display.editor page.redacted) =
      page.editors.map (Display.editor page) := by
    rw [redacted, List.map_map]
    rfl
  have hempty : page.redacted.editors.isEmpty = page.editors.isEmpty := by
    simp [redacted]
  unfold Display.page
  rw [hlines, hempty]
  rfl

/-! ## What happens to a page -/

@[simp] theorem redacted_redacted (page : Page) : page.redacted.redacted = page.redacted := by
  simp [redacted, Function.comp_def]

theorem disable_redacted (page : Page) : page.redacted.disable = page.disable.redacted := by
  simp [redacted, disable, List.foldl_map, Function.comp_def, Editor.redacted,
    Editor.isSubmittable]

theorem reload_redacted (page : Page) : page.redacted.reload = page.reload.redacted := by
  simp [redacted, reload, Function.comp_def, Editor.redacted, Editor.isSubmittable]

/-- An editor that is found by its name is found in the same place without the contents. -/
theorem redacted_setContent (page : Page) (filename content : String) :
    (page.redacted.setContent filename content).redacted =
      (page.setContent filename content).redacted := by
  have heditors : ∀ editors : List Editor,
      (setFirstContent filename content (editors.map Editor.redacted)).map Editor.redacted =
        (setFirstContent filename content editors).map Editor.redacted := by
    intro editors
    induction editors with
    | nil => rfl
    | cons editor rest ih =>
        by_cases hname : editor.filename = filename
        · have hrest : (rest.map Editor.redacted).map Editor.redacted =
              rest.map Editor.redacted := by
            simp [Function.comp_def]
          simp only [List.map_cons, setFirstContent, Editor.filename_redacted, hname, hrest,
            if_true]
          rfl
        · simp [setFirstContent, hname, ih]
  simp [redacted, setContent, heditors]

theorem render_redacted (page : Page) (now : Int) (notification : Notification) :
    (page.redacted.render now notification).1 = (page.render now notification).1.redacted := by
  cases notification with
  | roundStart => exact (page.touch now).reload_redacted
  | roundStop notice => exact (page.touch now).disable_redacted
  | testResult feedback =>
      simp only [render, showTestResult]
      cases feedback.test <;> rfl
  | _ => rfl

/-- What happens to a page and is then withheld does not depend on what was withheld before. -/
theorem redacted_perform (page : Page) (happening : Happening) :
    (page.redacted.perform happening).redacted = (page.perform happening).redacted := by
  cases happening with
  | rendered now notification =>
      simp only [perform, render_redacted, redacted_redacted]
  | acted team action =>
      cases hcase : page.isDisabled action with
      | true =>
          have hother : page.redacted.isDisabled action = true := hcase
          rw [(acted_of_disabled hcase team).1, (acted_of_disabled hother team).1,
            redacted_redacted]
      | false =>
          have hother : page.redacted.isDisabled action = false := hcase
          rw [(acted_of_enabled hcase team).1, (acted_of_enabled hother team).1]
          cases action with
          | compile => exact page.redacted_redacted
          | test => exact page.clearTestOutputs.redacted_redacted
          | submit =>
              change page.redacted.disable.redacted = page.disable.redacted
              rw [disable_redacted, redacted_redacted]
  | edited filename content => exact page.redacted_setContent filename content
  | selected tests => exact (page.selectTests tests).redacted_redacted
  | written name text => exact (page.setRegion name text).redacted_redacted

end Page

end ClassroomClient
