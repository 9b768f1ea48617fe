/-
# The lock of a page

A page is locked as a whole or not at all. What can be seen of the lock are the disabled controls,
the grey tabs and the lock of every editor; `lockState` collects them. `disable` and `reload` are
the only operations that change it, and each leaves it in one of its two extremes, whatever it was
before.
-/

import ClassroomClient.Proofs.Page.Run

namespace ClassroomClient

open Exchange

namespace Page

/-- Nothing on the page is locked. -/
structure IsOpen (page : Page) : Prop where
  enabled : ∀ action, page.isDisabled action = false
  unlocked : ∀ editor ∈ page.editors, editor.locked = false
  ungreyed : ∀ name, page.isGreyed name = false

/-- Everything on the page is locked. -/
structure IsLocked (page : Page) : Prop where
  disabled : ∀ action, page.isDisabled action = true
  locked : ∀ editor ∈ page.editors, editor.locked = true
  greyed : ∀ editor ∈ page.editors, page.isGreyed editor.filename = true

/-- What can be seen of the lock of a page. -/
def lockState (page : Page) : List Action × NameSet × List (String × Bool) :=
  (page.disabled, page.greyedTabs, page.editors.map fun editor => (editor.filename, editor.locked))

/-! ## Operations that leave the lock alone -/

theorem lockState_setRegion (page : Page) (name text : String) :
    (page.setRegion name text).lockState = page.lockState := rfl

theorem lockState_setTabColor (page : Page) (tab : String) (color : TabColor) :
    (page.setTabColor tab color).lockState = page.lockState := rfl

theorem lockState_clearTestOutputs (page : Page) :
    page.clearTestOutputs.lockState = page.lockState := rfl

theorem lockState_selectTests (page : Page) (tests : List String) :
    (page.selectTests tests).lockState = page.lockState := rfl

/-- A new content keeps the name and the lock of its editor. -/
theorem lockState_setContent (page : Page) (filename content : String) :
    (page.setContent filename content).lockState = page.lockState := by
  have hnames (editors : List Editor) :
      (setFirstContent filename content editors).map (fun editor =>
          (editor.filename, editor.locked)) =
        editors.map fun editor => (editor.filename, editor.locked) := by
    induction editors with
    | nil => rfl
    | cons editor rest ih =>
        unfold setFirstContent
        split
        · rfl
        · rw [List.map_cons, List.map_cons, ih]
  rw [lockState, setContent, hnames]
  rfl

/-- Only the signals for the start and the stop of a round touch the lock. -/
theorem lockState_render (page : Page) (now : Int) {notification : Notification}
    (hstart : notification ≠ .roundStart) (hstop : ∀ notice, notification ≠ .roundStop notice) :
    (page.render now notification).1.lockState = page.lockState := by
  cases notification with
  | testResult feedback =>
      simp only [render, showTestResult]
      split
      · rw [lockState_setTabColor, setTestOutput, lockState_setRegion]
        rfl
      · rfl
  | submitResult feedback => rfl
  | compileResult result =>
      simp only [render, showCompileResult]
      rw [lockState_setTabColor, lockState_setRegion]
      rfl
  | broadcast feedback =>
      simp only [render, showBroadcast, appendRegion, lockState_setRegion]
      rfl
  | roundStart => exact absurd rfl hstart
  | roundStop notice => exact absurd rfl (hstop notice)
  | rankingsChange => rfl

/-! ## The lock decides -/

theorem isDisabled_of_lockState {page other : Page} (hsame : other.lockState = page.lockState)
    (action : Action) : other.isDisabled action = page.isDisabled action := by
  have hdisabled : other.disabled = page.disabled := congrArg (·.1) hsame
  rw [isDisabled, isDisabled, hdisabled]

theorem isGreyed_of_lockState {page other : Page} (hsame : other.lockState = page.lockState)
    (name : String) : other.isGreyed name = page.isGreyed name := by
  have hgreyed : other.greyedTabs = page.greyedTabs := congrArg (·.2.1) hsame
  rw [isGreyed, isGreyed, hgreyed]

/-- Pages with the same lock have editors of the same names with the same locks. -/
theorem exists_editor_of_lockState {page other : Page} (hsame : other.lockState = page.lockState)
    {editor : Editor} (hmem : editor ∈ other.editors) :
    ∃ counterpart ∈ page.editors, counterpart.filename = editor.filename ∧
      counterpart.locked = editor.locked := by
  have heditors : other.editors.map (fun editor => (editor.filename, editor.locked)) =
      page.editors.map fun editor => (editor.filename, editor.locked) :=
    congrArg (·.2.2) hsame
  have hpair : (editor.filename, editor.locked) ∈
      page.editors.map fun editor => (editor.filename, editor.locked) := by
    rw [← heditors]
    exact List.mem_map_of_mem hmem
  obtain ⟨counterpart, hcounterpart, hequal⟩ := List.mem_map.1 hpair
  exact ⟨counterpart, hcounterpart, congrArg (·.1) hequal, congrArg (·.2) hequal⟩

theorem IsOpen.of_lockState {page other : Page} (hopen : page.IsOpen)
    (hsame : other.lockState = page.lockState) : other.IsOpen where
  enabled := by
    intro action
    rw [isDisabled_of_lockState hsame]
    exact hopen.enabled action
  unlocked := by
    intro editor hmem
    obtain ⟨counterpart, hcounterpart, _, hlocked⟩ := exists_editor_of_lockState hsame hmem
    rw [← hlocked]
    exact hopen.unlocked counterpart hcounterpart
  ungreyed := by
    intro name
    rw [isGreyed_of_lockState hsame]
    exact hopen.ungreyed name

theorem IsLocked.of_lockState {page other : Page} (hlocked : page.IsLocked)
    (hsame : other.lockState = page.lockState) : other.IsLocked where
  disabled := by
    intro action
    rw [isDisabled_of_lockState hsame]
    exact hlocked.disabled action
  locked := by
    intro editor hmem
    obtain ⟨counterpart, hcounterpart, _, heq⟩ := exists_editor_of_lockState hsame hmem
    rw [← heq]
    exact hlocked.locked counterpart hcounterpart
  greyed := by
    intro editor hmem
    obtain ⟨counterpart, hcounterpart, hname, _⟩ := exists_editor_of_lockState hsame hmem
    rw [isGreyed_of_lockState hsame, ← hname]
    exact hlocked.greyed counterpart hcounterpart

/-- No page is open and locked. -/
theorem IsOpen.not_isLocked {page : Page} (hopen : page.IsOpen) : ¬ page.IsLocked := by
  intro hlocked
  have henabled := hopen.enabled .submit
  rw [hlocked.disabled .submit] at henabled
  cases henabled

/-! ## Operations that change the lock -/

/-- Adding names to a set keeps those in it and adds all of them. -/
theorem contains_foldl_add (editors : List Editor) (names : NameSet) (name : String)
    (h : names.contains name = true ∨ ∃ editor ∈ editors, editor.filename = name) :
    (editors.foldl (fun tabs editor => tabs.add editor.filename) names).contains name = true := by
  induction editors generalizing names with
  | nil =>
      rcases h with h | ⟨editor, hmem, _⟩
      · exact h
      · cases hmem
  | cons first rest ih =>
      rw [List.foldl_cons]
      apply ih
      by_cases hfirst : name = first.filename
      · left
        simp [Dictionary.contains, NameSet.add, Dictionary.find?_insert, hfirst]
      · rcases h with h | ⟨editor, hmem, hname⟩
        · left
          simpa [Dictionary.contains, NameSet.add, Dictionary.find?_insert, hfirst] using h
        · right
          rcases List.mem_cons.1 hmem with rfl | hrest
          · exact absurd hname.symm hfirst
          · exact ⟨editor, hrest, hname⟩

/-- Disabling locks everything, whatever was locked before. -/
theorem isLocked_disable (page : Page) : page.disable.IsLocked where
  disabled := by
    intro action
    cases action <;> rfl
  locked := by
    intro editor hmem
    obtain ⟨original, _, rfl⟩ := List.mem_map.1 hmem
    rfl
  greyed := by
    intro editor hmem
    obtain ⟨original, horiginal, rfl⟩ := List.mem_map.1 hmem
    exact contains_foldl_add page.editors page.greyedTabs original.filename
      (.inr ⟨original, horiginal, rfl⟩)

/-- Reloading opens everything, whatever was locked before. -/
theorem isOpen_reload (page : Page) : page.reload.IsOpen where
  enabled := by
    intro action
    rfl
  unlocked := by
    intro editor hmem
    obtain ⟨original, _, rfl⟩ := List.mem_map.1 hmem
    rfl
  ungreyed := by
    intro name
    rfl

/-! ## Pages at the start -/

theorem isOpen_empty : empty.IsOpen where
  enabled := by
    intro action
    rfl
  unlocked := by
    intro editor hmem
    cases hmem
  ungreyed := by
    intro name
    rfl

theorem IsOpen.addEditor {page : Page} (hopen : page.IsOpen) {editor : Editor}
    (hunlocked : editor.locked = false) : (page.addEditor editor).IsOpen where
  enabled := hopen.enabled
  unlocked := by
    intro other hmem
    rcases List.mem_append.1 hmem with hold | hnew
    · exact hopen.unlocked other hold
    · obtain rfl := List.mem_singleton.1 hnew
      exact hunlocked
  ungreyed := hopen.ungreyed

end Page

/-- The page on which a client begins is open. -/
theorem isOpen_of_loadPage {read : FileReader} {files : List FileSpec} {page : Page}
    (hload : loadPage read files = .ok page) : page.IsOpen := by
  apply loadPage_induction hload Page.isOpen_empty
  intro page name kind content hopen
  exact hopen.addEditor rfl

/-- Reading a file again keeps the lock. -/
theorem lockState_refreshEditor (read : FileReader) (page : Page) (spec : FileSpec) :
    (refreshEditor read page spec).lockState = page.lockState := by
  unfold refreshEditor
  split
  · exact page.lockState_setContent _ _
  · rfl

end ClassroomClient
