/-
# Panels as a function of the history

The page keeps the regions, the names of those that belong to tests and the colors of the tabs
apart, and clears them at different times. Seen from outside there is one rule: under a name stands
the last result of that name since the outputs were last cleared, by a test action that was accepted
or by a new round, and without such a result nothing. Only the output of the compiler is empty
rather than absent after a test action. `Agrees` is the invariant that carries this through a run.
-/

import ClassroomClient.Proofs.Page.Panel
import ClassroomClient.Proofs.Page.Run

namespace ClassroomClient

open Exchange

namespace Page

/-! ## What the history says -/

/-- The entry clears the outputs: a new round, or a test action that was accepted. -/
def Entry.clears : Entry → Bool
  | .rendered .roundStart => true
  | .accepted .test => true
  | _ => false

/-- The text and the color that an entry gives to a name. -/
def Entry.result? (name : String) : Entry → Option (String × TabColor)
  | .rendered (.testResult feedback) =>
    if feedback.test = some name then some (feedback.text, .ofSuccess feedback.success) else none
  | .rendered (.compileResult result) =>
    if name = Region.output then some (result.text, .ofSuccess result.success) else none
  | _ => none

/-- The entries since the outputs were last cleared, from the last to the first. -/
def sinceCleared (log : List Entry) : List Entry := log.reverse.takeWhile fun entry => !entry.clears

/-- The last result of a name since the outputs were last cleared. -/
def latest? (name : String) (log : List Entry) : Option (String × TabColor) :=
  (sinceCleared log).findSome? (·.result? name)

/-- Whether the outputs were last cleared by a test action, with no new round after it. -/
def isTested (log : List Entry) : Bool :=
  match log.reverse.find? Entry.clears with
  | some (.accepted .test) => true
  | _ => false

/-- What stands under a name by the history: the last result or, without one, nothing but the empty
output of the compiler after a test action. -/
def expected (name : String) (log : List Entry) : Option String × TabColor :=
  (((latest? name log).map (·.1)).or
      (if name = Region.output ∧ isTested log then some "" else none),
    ((latest? name log).map (·.2)).getD .neutral)

@[simp] theorem expected_nil (name : String) : expected name [] = (none, .neutral) := by
  simp [expected, latest?, sinceCleared, isTested]

theorem latest?_concat_of_clears {entry : Entry} (hclears : entry.clears = true) (name : String)
    (log : List Entry) : latest? name (log ++ [entry]) = none := by
  simp [latest?, sinceCleared, hclears]

theorem latest?_concat {entry : Entry} (hkeeps : entry.clears = false) (name : String)
    (log : List Entry) :
    latest? name (log ++ [entry]) = (entry.result? name).or (latest? name log) := by
  have hsince : sinceCleared (log ++ [entry]) = entry :: sinceCleared log := by
    simp [sinceCleared, hkeeps]
  rw [latest?, hsince, List.findSome?_cons]
  cases entry.result? name <;> rfl

theorem isTested_concat_of_clears {entry : Entry} (hclears : entry.clears = true)
    (log : List Entry) : isTested (log ++ [entry]) = isTested [entry] := by
  simp [isTested, hclears]

theorem isTested_concat {entry : Entry} (hkeeps : entry.clears = false) (log : List Entry) :
    isTested (log ++ [entry]) = isTested log := by
  simp [isTested, hkeeps]

/-- Clearing leaves no result. -/
theorem expected_concat_of_clears {entry : Entry} (hclears : entry.clears = true) (name : String)
    (log : List Entry) :
    expected name (log ++ [entry]) =
      (if name = Region.output ∧ isTested [entry] then some "" else none, .neutral) := by
  rw [expected, latest?_concat_of_clears hclears, isTested_concat_of_clears hclears]
  rfl

/-- An entry that clears nothing changes only what it is a result for. -/
theorem expected_concat {entry : Entry} (hkeeps : entry.clears = false) (name : String)
    (log : List Entry) :
    expected name (log ++ [entry]) =
      (entry.result? name).elim (expected name log) fun result => (some result.1, result.2) := by
  rw [expected, latest?_concat hkeeps, isTested_concat hkeeps]
  cases entry.result? name <;> rfl

/-! ## The invariant -/

/-- The regions that no result is shown in: responses, listing and rankings. -/
def sharedRegions : List String := [Region.response, Region.files, Region.rankings]

/-- The page shows what the history says, and a region that holds the output of a test is known to
be one. -/
structure Agrees (page : Page) (log : List Entry) : Prop where
  panels : ∀ name ∉ sharedRegions, page.panel name = expected name log
  tracked : ∀ name ∉ sharedRegions, name ≠ Region.output → page.region? name ≠ none →
    page.testRegions.contains name = true

variable {page next : Page} {log : List Entry} {entry : Entry}

/-- A page with the same panels agrees with the same history. -/
theorem Agrees.of_panels (hagrees : page.Agrees log)
    (hpanels : ∀ name ∉ sharedRegions, next.panel name = page.panel name)
    (htests : next.testRegions = page.testRegions) : next.Agrees log where
  panels := by
    intro name hname
    rw [hpanels name hname]
    exact hagrees.panels name hname
  tracked := by
    intro name hname hother hregion
    have hsame : next.region? name = page.region? name := congrArg (·.1) (hpanels name hname)
    rw [hsame] at hregion
    rw [htests]
    exact hagrees.tracked name hname hother hregion

/-- An entry that is a result for no name can be added to the history. -/
theorem Agrees.of_inert (hagrees : page.Agrees log) (hkeeps : entry.clears = false)
    (hnone : ∀ name, entry.result? name = none) : page.Agrees (log ++ [entry]) where
  panels := by
    intro name hname
    rw [expected_concat hkeeps, hnone]
    exact hagrees.panels name hname
  tracked := hagrees.tracked

/-- A result is shown under its names, and all other panels stay. -/
theorem Agrees.of_result (hagrees : page.Agrees log) (hkeeps : entry.clears = false)
    (hpanels : ∀ name ∉ sharedRegions, next.panel name =
      (entry.result? name).elim (page.panel name) fun result => (some result.1, result.2))
    (htests : ∀ name, page.testRegions.contains name = true ∨
      name ≠ Region.output ∧ (entry.result? name).isSome = true →
        next.testRegions.contains name = true) : next.Agrees (log ++ [entry]) where
  panels := by
    intro name hname
    rw [hpanels name hname, expected_concat hkeeps, hagrees.panels name hname]
  tracked := by
    intro name hname hother hregion
    apply htests
    cases hresult : entry.result? name with
    | some result => exact .inr ⟨hother, rfl⟩
    | none =>
        have hpanel := hpanels name hname
        rw [hresult] at hpanel
        have hsame : next.region? name = page.region? name := congrArg (·.1) hpanel
        rw [hsame] at hregion
        exact .inl (hagrees.tracked name hname hother hregion)

/-- Clearing leaves nothing, or the empty output of the compiler. -/
theorem Agrees.of_cleared (hclears : entry.clears = true)
    (hpanels : ∀ name ∉ sharedRegions, next.panel name =
      (if name = Region.output ∧ isTested [entry] then some "" else none, .neutral)) :
    next.Agrees (log ++ [entry]) where
  panels := by
    intro name hname
    rw [hpanels name hname, expected_concat_of_clears hclears]
  tracked := by
    intro name hname hother hregion
    have hnone : next.region? name = _ := congrArg (·.1) (hpanels name hname)
    rw [if_neg (fun h => hother h.1)] at hnone
    exact absurd hnone hregion

/-! ## Steps -/

theorem ne_of_not_mem_shared {name other : String} (hname : name ∉ sharedRegions)
    (hother : other ∈ sharedRegions) : name ≠ other := by
  rintro rfl
  exact hname hother

/-- The result of a test is shown under its name, which becomes that of a test. -/
theorem Agrees.showTestResult (hagrees : page.Agrees log) {feedback : Feedback} {test : String}
    (htest : feedback.test = some test) :
    (page.showTestResult feedback).Agrees (log ++ [.rendered (.testResult feedback)]) := by
  have htests : (page.showTestResult feedback).testRegions = page.testRegions.add test := by
    rw [Page.showTestResult, htest]
    rfl
  have hresult (name : String) : Entry.result? name (.rendered (.testResult feedback)) =
      if name = test then some (feedback.text, .ofSuccess feedback.success) else none := by
    simp [Entry.result?, htest, eq_comm]
  apply hagrees.of_result rfl
  · intro name _
    rw [panel_showTestResult htest, hresult]
    split <;> rfl
  · intro name hname
    rw [htests, NameSet.add, Dictionary.contains_insert]
    rcases hname with hold | ⟨_, hnew⟩
    · exact .inr hold
    · rw [hresult] at hnew
      split at hnew
      · next hsame => exact .inl hsame
      · cases hnew

/-- The result of a compilation is shown under the one name that needs not be that of a test. -/
theorem Agrees.showCompileResult (hagrees : page.Agrees log) (result : CompileResult) :
    (page.showCompileResult result).Agrees (log ++ [.rendered (.compileResult result)]) := by
  have hresult (name : String) : Entry.result? name (.rendered (.compileResult result)) =
      if name = Region.output then some (result.text, .ofSuccess result.success) else none := rfl
  apply hagrees.of_result rfl
  · intro name _
    rw [panel_showCompileResult, hresult]
    split <;> rfl
  · intro name hname
    rcases hname with hold | ⟨hother, hnew⟩
    · exact hold
    · rw [hresult, if_neg hother] at hnew
      cases hnew

/-- Every notification that is rendered keeps the agreement. -/
theorem Agrees.render (hagrees : page.Agrees log) (now : Int) (notification : Notification) :
    (page.render now notification).1.Agrees (log ++ [.rendered notification]) := by
  have htouched : (page.touch now).Agrees log :=
    hagrees.of_panels (fun name _ => page.panel_touch now name) rfl
  cases notification with
  | testResult feedback =>
      cases htest : feedback.test with
      | some test => exact htouched.showTestResult htest
      | none =>
          have hkept : (page.touch now).showTestResult feedback = page.touch now := by
            rw [Page.showTestResult, htest]
          change ((page.touch now).showTestResult feedback).Agrees _
          rw [hkept]
          apply htouched.of_inert rfl
          intro name
          rw [Entry.result?, htest]
          rfl
  | submitResult feedback => exact htouched.of_inert rfl fun _ => rfl
  | compileResult result => exact htouched.showCompileResult result
  | broadcast feedback =>
      have hshown : ((page.touch now).showBroadcast feedback).Agrees log := by
        refine htouched.of_panels (fun name hname => ?_) rfl
        exact panel_showBroadcast_of_ne _ _ (ne_of_not_mem_shared hname (by decide))
      exact hshown.of_inert rfl fun _ => rfl
  | roundStart =>
      apply Agrees.of_cleared rfl
      intro name _
      exact (panel_reload _ _).trans (by simp [isTested])
  | roundStop notice =>
      have hdisabled : (page.touch now).disable.Agrees log :=
        htouched.of_panels (fun name _ => panel_disable _ name) rfl
      exact hdisabled.of_inert rfl fun _ => rfl
  | rankingsChange => exact htouched.of_inert rfl fun _ => rfl

/-- A test action that is accepted takes away what is known to belong to a test, and that is all
there is. -/
theorem Agrees.clearTestOutputs (hagrees : page.Agrees log) :
    page.clearTestOutputs.Agrees (log ++ [.accepted .test]) := by
  apply Agrees.of_cleared rfl
  intro name hname
  rw [panel_clearTestOutputs]
  by_cases houtput : name = Region.output
  · rw [if_pos houtput, if_pos ⟨houtput, rfl⟩]
  · have hblank : ¬ (name = Region.output ∧ isTested [.accepted .test] = true) :=
      fun h => houtput h.1
    rw [if_neg houtput, if_neg hblank]
    by_cases hknown : page.testRegions.contains name = true
    · rw [if_pos hknown]
    · rw [if_neg hknown]
      cases hregion : page.region? name with
      | none => rfl
      | some text =>
          have htracked := hagrees.tracked name hname houtput (by rw [hregion]; nofun)
          exact absurd htracked hknown

/-- Every action keeps the agreement, whether it is accepted or refused. -/
theorem Agrees.act (hagrees : page.Agrees log) (team : String) (action : Action) :
    (page.perform (.acted team action)).Agrees
      (log ++ (page.entry? (.acted team action)).toList) := by
  cases hdisabled : page.isDisabled action with
  | true =>
      obtain ⟨hpage, hentry⟩ := acted_of_disabled hdisabled team
      rw [hpage, hentry]
      exact hagrees.of_inert rfl fun _ => rfl
  | false =>
      obtain ⟨hpage, hentry⟩ := acted_of_enabled hdisabled team
      rw [hpage, hentry]
      cases action with
      | compile => exact hagrees.of_inert rfl fun _ => rfl
      | test => exact hagrees.clearTestOutputs
      | submit =>
          have hlocked : page.disable.Agrees log :=
            hagrees.of_panels (fun name _ => page.panel_disable name) rfl
          exact hlocked.of_inert rfl fun _ => rfl

/-- Whatever happens to the page keeps the agreement, as long as only shared regions are written
from outside. -/
theorem Agrees.perform (hagrees : page.Agrees log) (happening : Happening)
    (hwritten : ∀ name text, happening = .written name text → name ∈ sharedRegions) :
    (page.perform happening).Agrees (log ++ (page.entry? happening).toList) := by
  cases happening with
  | rendered now notification => exact hagrees.render now notification
  | acted team action => exact hagrees.act team action
  | edited filename content =>
      have hedited : (page.setContent filename content).Agrees log :=
        hagrees.of_panels (fun name _ => page.panel_setContent filename content name) rfl
      simpa [Page.perform, entry?] using hedited
  | selected tests =>
      have hselected : (page.selectTests tests).Agrees log :=
        hagrees.of_panels (fun name _ => page.panel_selectTests tests name) rfl
      simpa [Page.perform, entry?] using hselected
  | written other text =>
      have hother := hwritten other text rfl
      have hset : (page.setRegion other text).Agrees log := by
        refine hagrees.of_panels (fun name hname => ?_) rfl
        exact panel_setRegion_of_ne _ (ne_of_not_mem_shared hname hother) text
      simpa [Page.perform, entry?] using hset

/-- The agreement is kept through a whole run. -/
theorem Agrees.after (hagrees : page.Agrees log) {happenings : List Happening}
    (hwritten : ∀ name text, .written name text ∈ happenings → name ∈ sharedRegions) :
    (page.after happenings).Agrees (log ++ page.history happenings) := by
  induction happenings generalizing page log with
  | nil =>
      rw [history, List.append_nil]
      exact hagrees
  | cons happening rest ih =>
      rw [history, ← List.append_assoc]
      apply ih
      · apply hagrees.perform
        rintro name text rfl
        exact hwritten name text List.mem_cons_self
      · intro name text hmem
        exact hwritten name text (List.mem_cons_of_mem _ hmem)

/-- A page that was just loaded shows nothing. -/
theorem agrees_of_loadPage {read : FileReader} {files : List FileSpec}
    (hload : loadPage read files = .ok page) : page.Agrees [] := by
  apply loadPage_induction hload
  · refine ⟨fun name _ => ?_, fun name _ _ hregion => absurd rfl hregion⟩
    rw [panel_empty, expected_nil]
  · intro page name kind content hagrees
    exact hagrees.of_panels (fun name _ => panel_addEditor _ _ name) rfl

/-! ## What changes nothing -/

/-- What happens has no results: other notifications than named results of tests and results of
compilations, and other actions than tests. -/
inductive Happening.IsInert : Happening → Prop
  | submitResult (now : Int) (feedback : Feedback) :
      IsInert (.rendered now (.submitResult feedback))
  | unnamedResult (now : Int) {feedback : Feedback} (hunnamed : feedback.test = none) :
      IsInert (.rendered now (.testResult feedback))
  | broadcast (now : Int) (feedback : Feedback) : IsInert (.rendered now (.broadcast feedback))
  | roundStop (now : Int) (notice : StopNotice) : IsInert (.rendered now (.roundStop notice))
  | rankingsChange (now : Int) : IsInert (.rendered now .rankingsChange)
  | compile (team : String) : IsInert (.acted team .compile)
  | submit (team : String) : IsInert (.acted team .submit)

theorem panel_perform_of_inert {happening : Happening} (hinert : happening.IsInert) (page : Page)
    {name : String} (hname : name ≠ Region.response) :
    (page.perform happening).panel name = page.panel name := by
  have hacted (team : String) {action : Action}
      (hkept : (Submission.pageAfter page action).panel name = page.panel name) :
      (page.perform (.acted team action)).panel name = page.panel name := by
    cases hdisabled : page.isDisabled action with
    | true => rw [(acted_of_disabled hdisabled team).1]
    | false => rw [(acted_of_enabled hdisabled team).1, hkept]
  cases hinert with
  | submitResult now feedback => rfl
  | unnamedResult now hunnamed => simp [Page.perform, Page.render, Page.showTestResult, hunnamed]
  | broadcast now feedback => exact panel_showBroadcast_of_ne (page.touch now) feedback hname
  | roundStop now notice => rfl
  | rankingsChange now => rfl
  | compile team => exact hacted team rfl
  | submit team => exact hacted team rfl

/-! ## Panels -/

end Page

end ClassroomClient
