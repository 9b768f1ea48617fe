/-
# Panels

Under a name the page shows a text, if it has such a region, and the color of a tab. Together they
are the panel of that name. This module says what each operation on the page does to every panel:
most leave all of them alone, a result sets one, and clearing the outputs of the tests and reloading
reach them all.
-/

import ClassroomClient.Page.Render
import ClassroomClient.Submission

namespace ClassroomClient

open Exchange

namespace Page

/-- What the page shows under a name: the text of the region and the color of the tab. -/
def panel (page : Page) (name : String) : Option String × TabColor :=
  (page.region? name, page.tabColor name)

@[simp] theorem panel_touch (page : Page) (now : Int) (name : String) :
    (page.touch now).panel name = page.panel name := rfl

@[simp] theorem panel_disable (page : Page) (name : String) :
    page.disable.panel name = page.panel name := rfl

@[simp] theorem panel_selectTests (page : Page) (tests : List String) (name : String) :
    (page.selectTests tests).panel name = page.panel name := rfl

@[simp] theorem panel_setContent (page : Page) (filename content name : String) :
    (page.setContent filename content).panel name = page.panel name := rfl

@[simp] theorem panel_addEditor (page : Page) (editor : Editor) (name : String) :
    (page.addEditor editor).panel name = page.panel name := rfl

@[simp] theorem panel_empty (name : String) : empty.panel name = (none, .neutral) := rfl

/-- A page that was reloaded shows nothing. -/
@[simp] theorem panel_reload (page : Page) (name : String) :
    page.reload.panel name = (none, .neutral) := rfl

theorem panel_setRegion (page : Page) (other text name : String) :
    (page.setRegion other text).panel name =
      (if name = other then some text else page.region? name, page.tabColor name) := by
  rw [panel, region?, setRegion, Dictionary.find?_insert]
  rfl

theorem panel_setRegion_of_ne (page : Page) {other name : String} (hother : name ≠ other)
    (text : String) : (page.setRegion other text).panel name = page.panel name := by
  rw [panel_setRegion, if_neg hother]
  rfl

/-- A text and a color that are set together make up the panel. -/
theorem panel_setTabColor_setRegion (page : Page) (other text name : String) (color : TabColor) :
    ((page.setRegion other text).setTabColor other color).panel name =
      if name = other then (some text, color) else page.panel name := by
  rw [panel, region?, tabColor, setTabColor, setRegion]
  dsimp only
  rw [Dictionary.find?_insert, Dictionary.find?_insert]
  split <;> rfl

/-- The result of a test is shown under its name. -/
theorem panel_showTestResult {feedback : Feedback} {test : String}
    (htest : feedback.test = some test) (page : Page) (name : String) :
    (page.showTestResult feedback).panel name =
      if name = test then (some feedback.text, .ofSuccess feedback.success)
      else page.panel name := by
  rw [showTestResult, htest]
  exact panel_setTabColor_setRegion _ _ _ _ _

theorem panel_showCompileResult (page : Page) (result : CompileResult) (name : String) :
    (page.showCompileResult result).panel name =
      if name = Region.output then (some result.text, .ofSuccess result.success)
      else page.panel name :=
  panel_setTabColor_setRegion _ _ _ _ _

/-- A broadcast is shown among the responses. -/
theorem panel_showBroadcast_of_ne (page : Page) (feedback : Feedback) {name : String}
    (hother : name ≠ Region.response) :
    (page.showBroadcast feedback).panel name = page.panel name := by
  unfold showBroadcast appendRegion
  dsimp only
  rw [panel_setRegion_of_ne _ hother, panel_setRegion_of_ne _ hother,
    panel_setRegion_of_ne _ hother]

/-- Clearing empties the output of the compiler, removes the outputs of the tests, keeps all other
texts, and takes the color from every tab. -/
theorem panel_clearTestOutputs (page : Page) (name : String) :
    page.clearTestOutputs.panel name =
      (if name = Region.output then some ""
        else if page.testRegions.contains name then none
        else page.region? name, .neutral) := by
  have hcolor : page.clearTestOutputs.tabColor name = .neutral := by
    rw [tabColor, clearTestOutputs]
    dsimp only
    rw [Dictionary.find?_map]
    cases page.tabColors.find? name <;> rfl
  rw [panel, hcolor, region?, clearTestOutputs]
  dsimp only
  rw [Dictionary.find?_insert, Dictionary.find?_foldl_erase]
  simp only [Dictionary.mem_keys]
  rfl

end Page

end ClassroomClient
