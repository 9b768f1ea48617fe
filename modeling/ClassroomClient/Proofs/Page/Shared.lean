/-
# Regions that tests can take over

Results of tests and the regions for responses, files and rankings stand in one dictionary, each
under its name. As long as no test has the name of such a region, results and the clearing before a
test leave the region alone. But the server chooses the names of tests, and a test with the name of
a region takes it over: its result replaces what the region held, and from then on the next test
action removes the region, whatever has been written into it meanwhile. `Shows` says what a region
holds after any results and test actions.
-/

import ClassroomClient.Proofs.Page.History

namespace ClassroomClient

open Exchange

namespace Page

/-- The result of a test is rendered, or a test action is carried out. -/
inductive Happening.IsTesting : Happening → Prop
  | result (now : Int) (feedback : Feedback) : IsTesting (.rendered now (.testResult feedback))
  | test (team : String) : IsTesting (.acted team .test)

/-- A result of that name has been rendered. -/
def isNamed (name : String) (log : List Entry) : Bool :=
  log.any fun entry => (entry.result? name).isSome

theorem isNamed_concat (name : String) (log : List Entry) (entry : Entry) :
    isNamed name (log ++ [entry]) = (isNamed name log || (entry.result? name).isSome) := by
  simp [isNamed]

/-- The last result is one of those that have been rendered. -/
theorem isNamed_of_isSome_latest? {name : String} {log : List Entry}
    (hsome : (latest? name log).isSome = true) : isNamed name log = true := by
  obtain ⟨result, hlatest⟩ := Option.isSome_iff_exists.1 hsome
  obtain ⟨entry, hmem, hresult⟩ := List.exists_of_findSome?_eq_some hlatest
  refine List.any_eq_true.2 ⟨entry, ?_, ?_⟩
  · exact List.mem_reverse.1 ((List.takeWhile_sublist _).mem hmem)
  · rw [hresult]
    rfl

/-! ## The invariant -/

/-- What a region holds after some results and test actions, when it held the text `old` before them
and was known as the region of a test or not: the last result of its name since the last test action
or, without one, nothing if a test action could remove it, and else the old text. -/
structure Shows (name : String) (old : Option String) (known : Bool) (page : Page)
    (log : List Entry) : Prop where
  region : page.region? name =
    ((latest? name log).map (·.1)).or
      (if isTested log ∧ (known || isNamed name log) then none else old)
  tracked : page.testRegions.contains name =
    ((latest? name log).isSome || (known && !isTested log))
  /-- A result is the last one until a test action removes it. -/
  named : isNamed name log = true → isTested log = true ∨ (latest? name log).isSome = true

variable {name : String} {old : Option String} {known : Bool} {page next : Page}
  {log : List Entry} {entry : Entry}

theorem shows_nil (page : Page) (name : String) :
    page.Shows name (page.region? name) (page.testRegions.contains name) [] where
  region := by simp [latest?, sinceCleared, isTested]
  tracked := by simp [latest?, sinceCleared, isTested]
  named := nofun

/-- An entry that is no result of that name changes nothing. -/
theorem Shows.of_other (hshows : page.Shows name old known log) (hkeeps : entry.clears = false)
    (hother : entry.result? name = none) (hregion : next.region? name = page.region? name)
    (htracked : next.testRegions.contains name = page.testRegions.contains name) :
    next.Shows name old known (log ++ [entry]) := by
  have hlatest : latest? name (log ++ [entry]) = latest? name log := by
    rw [latest?_concat hkeeps, hother, Option.none_or]
  have hnamed : isNamed name (log ++ [entry]) = isNamed name log := by
    rw [isNamed_concat, hother, Option.isSome_none, Bool.or_false]
  constructor
  · rw [hregion, hlatest, hnamed, isTested_concat hkeeps]
    exact hshows.region
  · rw [htracked, hlatest, isTested_concat hkeeps]
    exact hshows.tracked
  · rw [hnamed, hlatest, isTested_concat hkeeps]
    exact hshows.named

/-- A result of that name is shown, and the region is known as that of a test. -/
theorem Shows.of_result {text : String} {color : TabColor} (hkeeps : entry.clears = false)
    (hresult : entry.result? name = some (text, color)) (hregion : next.region? name = some text)
    (htracked : next.testRegions.contains name = true) :
    next.Shows name old known (log ++ [entry]) := by
  have hlatest : latest? name (log ++ [entry]) = some (text, color) := by
    rw [latest?_concat hkeeps, hresult, Option.some_or]
  constructor
  · rw [hregion, hlatest]
    rfl
  · rw [htracked, hlatest]
    rfl
  · intro _
    rw [hlatest]
    exact .inr rfl

/-- A test action removes the region if it is known as that of a test. -/
theorem Shows.clearTestOutputs (hshows : page.Shows name old known log)
    (hname : name ≠ Region.output) :
    page.clearTestOutputs.Shows name old known (log ++ [.accepted .test]) := by
  have hlatest : latest? name (log ++ [.accepted .test]) = none :=
    latest?_concat_of_clears rfl name log
  have htested : isTested (log ++ [.accepted .test]) = true :=
    isTested_concat_of_clears rfl log
  have hnamed : isNamed name (log ++ [.accepted .test]) = isNamed name log := by
    rw [isNamed_concat]
    exact Bool.or_false _
  constructor
  · have hpanel := congrArg (·.1) (page.panel_clearTestOutputs name)
    simp only [panel, if_neg hname] at hpanel
    rw [hpanel, hlatest, htested, hnamed, hshows.tracked, hshows.region]
    have hcurrent := hshows.named
    cases hlast : latest? name log with
    | some result =>
        have hrendered : isNamed name log = true := isNamed_of_isSome_latest? (by rw [hlast]; rfl)
        simp [hrendered]
    | none =>
        rw [hlast] at hcurrent
        cases hbefore : isTested log with
        | true => simp
        | false =>
            have hfresh : isNamed name log = false := by simpa [hbefore] using hcurrent
            simp [hfresh]
  · have hnone : page.clearTestOutputs.testRegions.contains name = false := rfl
    rw [hnone, hlatest, htested]
    simp
  · intro _
    exact .inl htested

/-- The name of a test becomes that of a region of tests. -/
theorem contains_showTestResult (page : Page) (feedback : Feedback) (name : String) :
    (page.showTestResult feedback).testRegions.contains name = true ↔
      feedback.test = some name ∨ page.testRegions.contains name = true := by
  cases htest : feedback.test with
  | none => simp [Page.showTestResult, htest]
  | some test =>
      have hadded : (page.showTestResult feedback).testRegions = page.testRegions.add test := by
        rw [Page.showTestResult, htest]
        rfl
      rw [hadded, NameSet.add, Dictionary.contains_insert, Option.some.injEq, eq_comm]

theorem region?_showTestResult_of_ne (page : Page) {feedback : Feedback}
    (hother : feedback.test ≠ some name) :
    (page.showTestResult feedback).region? name = page.region? name := by
  cases htest : feedback.test with
  | none => rw [Page.showTestResult, htest]
  | some test =>
      have hne : name ≠ test := by
        rintro rfl
        exact hother htest
      have hpanel := panel_showTestResult htest page name
      rw [if_neg hne] at hpanel
      exact congrArg (·.1) hpanel

theorem Shows.showTestResult (hshows : page.Shows name old known log) (now : Int)
    (feedback : Feedback) :
    (page.render now (.testResult feedback)).1.Shows name old known
      (log ++ [.rendered (.testResult feedback)]) := by
  have hcontains := contains_showTestResult (page.touch now) feedback name
  by_cases htest : feedback.test = some name
  · have hpanel := panel_showTestResult htest (page.touch now) name
    rw [if_pos rfl] at hpanel
    exact .of_result rfl (if_pos htest) (congrArg (·.1) hpanel) (hcontains.2 (.inl htest))
  · have hother : Entry.result? name (.rendered (.testResult feedback)) = none := if_neg htest
    apply hshows.of_other rfl hother
    · exact region?_showTestResult_of_ne (page.touch now) htest
    · rw [Bool.eq_iff_iff]
      exact hcontains.trans (or_iff_right htest)

/-- A test action that is refused changes nothing. -/
theorem Shows.act (hshows : page.Shows name old known log) (hname : name ≠ Region.output)
    (team : String) :
    (page.perform (.acted team .test)).Shows name old known
      (log ++ (page.entry? (.acted team .test)).toList) := by
  cases hdisabled : page.isDisabled .test with
  | true =>
      obtain ⟨hpage, hentry⟩ := acted_of_disabled hdisabled team
      rw [hpage, hentry]
      exact hshows.of_other rfl rfl rfl rfl
  | false =>
      obtain ⟨hpage, hentry⟩ := acted_of_enabled hdisabled team
      rw [hpage, hentry]
      exact hshows.clearTestOutputs hname

theorem Shows.perform (hshows : page.Shows name old known log) (hname : name ≠ Region.output)
    {happening : Happening} (htesting : happening.IsTesting) :
    (page.perform happening).Shows name old known
      (log ++ (page.entry? happening).toList) := by
  cases htesting with
  | result now feedback => exact hshows.showTestResult now feedback
  | test team => exact hshows.act hname team

/-- The invariant is kept through any results and test actions. -/
theorem Shows.after (hshows : page.Shows name old known log) (hname : name ≠ Region.output)
    {happenings : List Happening} (htesting : ∀ happening ∈ happenings, happening.IsTesting) :
    (page.after happenings).Shows name old known (log ++ page.history happenings) := by
  induction happenings generalizing page log with
  | nil =>
      rw [history, List.append_nil]
      exact hshows
  | cons happening rest ih =>
      rw [history, ← List.append_assoc]
      apply ih
      · exact hshows.perform hname (htesting happening List.mem_cons_self)
      · intro other hmem
        exact htesting other (List.mem_cons_of_mem _ hmem)

/-! ## Regions that no test has -/

/-- What happens to the page is no result of a test of that name. -/
def Happening.Spares (name : String) (happening : Happening) : Prop :=
  ∀ feedback, happening.notification? = some (.testResult feedback) → feedback.test ≠ some name

/-- The text of a region after something has happened that shows no result or broadcast in it: a new
round removes it, and writing replaces it. -/
def written? (name : String) (old : Option String) : Happening → Option String
  | .rendered _ .roundStart => none
  | .written other text => if name = other then some text else old
  | _ => old

/-- As long as no test has its name, a region other than the output of the compiler is changed by
broadcasts, new rounds and writing alone. -/
theorem region?_perform {happening : Happening}
    (huntracked : page.testRegions.contains name = false) (hspares : happening.Spares name)
    (houtput : name ≠ Region.output)
    (hquiet : name ≠ Region.response ∨
      ∀ feedback, happening.notification? ≠ some (.broadcast feedback)) :
    (page.perform happening).region? name = written? name (page.region? name) happening ∧
      (page.perform happening).testRegions.contains name = false := by
  cases happening with
  | rendered now notification =>
      cases notification with
      | testResult feedback =>
          have hother : feedback.test ≠ some name := hspares feedback rfl
          refine ⟨region?_showTestResult_of_ne (page.touch now) hother, ?_⟩
          rw [Bool.eq_false_iff]
          intro hcontains
          rcases (contains_showTestResult (page.touch now) feedback name).1 hcontains with
            htest | hold
          · exact hother htest
          · exact absurd (hold.symm.trans huntracked) (by decide)
      | compileResult result =>
          have hpanel := panel_showCompileResult (page.touch now) result name
          rw [if_neg houtput] at hpanel
          exact ⟨congrArg (·.1) hpanel, huntracked⟩
      | broadcast feedback =>
          have hresponse : name ≠ Region.response :=
            hquiet.resolve_right fun hnone => hnone feedback rfl
          have hpanel := panel_showBroadcast_of_ne (page.touch now) feedback hresponse
          exact ⟨congrArg (·.1) hpanel, huntracked⟩
      | roundStart => exact ⟨rfl, rfl⟩
      | _ => exact ⟨rfl, huntracked⟩
  | acted team action =>
      cases hdisabled : page.isDisabled action with
      | true =>
          rw [(acted_of_disabled hdisabled team).1]
          exact ⟨rfl, huntracked⟩
      | false =>
          rw [(acted_of_enabled hdisabled team).1]
          cases action with
          | test =>
              have hpanel := congrArg (·.1) (page.panel_clearTestOutputs name)
              simp only [if_neg houtput, huntracked] at hpanel
              exact ⟨hpanel, rfl⟩
          | _ => exact ⟨rfl, huntracked⟩
  | written other text =>
      exact ⟨congrArg (·.1) (page.panel_setRegion other text name), huntracked⟩
  | _ => exact ⟨rfl, huntracked⟩

/-! ## Shared regions -/

/-- What is noted down as rendered is what was rendered. -/
theorem rendered_mem_history (page : Page) {happenings : List Happening}
    {notification : Notification} :
    .rendered notification ∈ page.history happenings ↔
      ∃ now, .rendered now notification ∈ happenings := by
  have hentry (page : Page) (happening : Happening) :
      .rendered notification ∈ (page.entry? happening).toList ↔
        ∃ now, happening = .rendered now notification := by
    cases happening with
    | acted team action =>
        cases hdisabled : page.isDisabled action with
        | true => simp [(acted_of_disabled hdisabled team).2]
        | false => simp [(acted_of_enabled hdisabled team).2]
    | _ => simp [eq_comm, entry?]
  induction happenings generalizing page with
  | nil => simp [history]
  | cons happening rest ih =>
      rw [history, List.mem_append, hentry]
      refine (or_congr Iff.rfl (ih (page.perform happening))).trans ?_
      simp only [List.mem_cons, exists_or, eq_comm]

/-- Only results of tests of that name are results for a region other than the output of the
compiler. -/
theorem isNamed_history {happenings : List Happening} (hname : name ≠ Region.output) :
    isNamed name (page.history happenings) = true ↔
      ∃ now feedback, .rendered now (.testResult feedback) ∈ happenings ∧
        feedback.test = some name := by
  constructor
  · intro hnamed
    obtain ⟨entry, hmem, hresult⟩ := List.any_eq_true.1 hnamed
    unfold Entry.result? at hresult
    split at hresult
    · next feedback =>
      split at hresult
      · next htest =>
        obtain ⟨now, hrendered⟩ := (rendered_mem_history page).1 hmem
        exact ⟨now, feedback, hrendered, htest⟩
      · cases hresult
    · rw [if_neg hname] at hresult
      cases hresult
    · cases hresult
  · rintro ⟨now, feedback, hrendered, htest⟩
    refine List.any_eq_true.2 ⟨_, (rendered_mem_history page).2 ⟨now, hrendered⟩, ?_⟩
    simp [Entry.result?, htest]

/-- What results of tests and test actions leave in a region other than the output of the compiler,
such as those for responses, files and rankings. A region that was not known as that of a test keeps
its text as long as no test of its name has a result. Otherwise a test action removes it, and what
it holds is the last result of its name since the last test action. -/
theorem region_after_of_testing (page : Page) {happenings : List Happening}
    (htesting : ∀ happening ∈ happenings, happening.IsTesting) {name : String}
    (hname : name ≠ Region.output) :
    let log := page.history happenings
    ((page.testRegions.contains name = false ∧
        ∀ now feedback, .rendered now (.testResult feedback) ∈ happenings →
          feedback.test ≠ some name) →
      (page.after happenings).region? name = page.region? name) ∧
    ((page.testRegions.contains name = true ∨ ∃ now feedback,
        .rendered now (.testResult feedback) ∈ happenings ∧ feedback.test = some name) →
      (page.after happenings).region? name =
        ((latest? name log).map (·.1)).or (if isTested log then none else page.region? name)) := by
  intro log
  have hregion := ((shows_nil page name).after hname htesting).region
  rw [List.nil_append] at hregion
  constructor
  · rintro ⟨hunknown, hother⟩
    have hfresh : isNamed name log = false := by
      rw [Bool.eq_false_iff]
      intro hnamed
      obtain ⟨now, feedback, hrendered, htest⟩ := (isNamed_history hname).1 hnamed
      exact hother now feedback hrendered htest
    have hlatest : latest? name log = none := by
      rw [← Option.not_isSome_iff_eq_none]
      intro hsome
      rw [isNamed_of_isSome_latest? hsome] at hfresh
      cases hfresh
    rw [hregion, hlatest, hunknown, hfresh]
    simp
  · intro hknown
    have hnamed : (page.testRegions.contains name || isNamed name log) = true := by
      rw [Bool.or_eq_true, isNamed_history hname]
      exact hknown
    rw [hregion, hnamed]
    simp [log]

/-- The listing of the files is replaced by the output of a test of that name, and the next test
action removes it. The rankings stay. -/
theorem region_after_of_testing_files :
    let page := (Page.empty.setRegion Region.files "A.java").setRegion Region.rankings "1. team1"
    let result : Notification :=
      .testResult { Feedback.empty with test := some Region.files, text := "failed" }
    let happenings : List Happening := [.rendered 1 result, .acted "team1" .test]
    (∀ happening ∈ happenings, happening.IsTesting) ∧
      Region.files ≠ Region.output ∧ Region.rankings ≠ Region.output ∧
      (page.after happenings).region? Region.files = none ∧
      (page.after happenings).region? Region.rankings = some "1. team1" := by
  intro page result happenings
  have htesting : ∀ happening ∈ happenings, happening.IsTesting := by
    intro happening hmem
    simp only [happenings, List.mem_cons, List.not_mem_nil, or_false] at hmem
    rcases hmem with rfl | rfl
    · exact .result 1 _
    · exact .test "team1"
  obtain ⟨_, hfiles⟩ := page.region_after_of_testing htesting
    (show Region.files ≠ Region.output by decide)
  obtain ⟨hrankings, _⟩ := page.region_after_of_testing htesting
    (show Region.rankings ≠ Region.output by decide)
  refine ⟨htesting, by decide, by decide, ?_, ?_⟩
  · apply hfiles
    exact .inr ⟨1, _, List.mem_cons_self, rfl⟩
  · apply hrankings
    refine ⟨rfl, ?_⟩
    intro now feedback hmem
    simp only [happenings, List.mem_cons, List.not_mem_nil, or_false, reduceCtorEq,
      Happening.rendered.injEq] at hmem
    obtain rfl := Notification.testResult.inj hmem.2
    decide

/-- What others have said is lost to a test with the name of the region for responses: first it is
replaced by the output of the test, then it is removed, although no test had that name before. -/
theorem responses_lost_to_test :
    let page := Page.empty.after
      [.rendered 1 (.broadcast { Feedback.empty with team := "team2", text := "hello" })]
    let result : Notification :=
      .testResult { Feedback.empty with test := some Region.response, text := "failed" }
    page.region? Region.response = some "team2: \nhello\n" ∧
      (page.after [.rendered 2 result]).region? Region.response = some "failed" ∧
      (page.after [.rendered 2 result, .acted "team1" .test]).region? Region.response = none :=
  ⟨by decide, by decide, by decide⟩

end Page

end ClassroomClient
