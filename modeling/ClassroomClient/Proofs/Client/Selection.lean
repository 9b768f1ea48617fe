/-
# The tests of a typed line

A line that asks for tests selects them on the page at once. Its request is built later, when the
files have been read again, and what waits is rendered in between. Results, files and downloads
leave the selection alone, and after the signal for the end of a round there is no request. But the
signal for a new round empties the selection and leaves the control enabled, so that the request of
the line asks for no tests at all, whatever the line names.
-/

import ClassroomClient.Proofs.Client.Page
import ClassroomClient.Proofs.Page.Lock

namespace ClassroomClient

open Exchange Stomp

/-- The signals that set the lock. -/
inductive Signal
  | start
  | stop
  deriving DecidableEq

/-- The signal that a notification is. -/
def Exchange.Notification.signal? : Notification → Option Signal
  | .roundStart => some .start
  | .roundStop _ => some .stop
  | _ => none

namespace Page

/-! ## Pages between the selection and the request -/

/-- The signal that is rendered. -/
def Happening.signal? (happening : Happening) : Option Signal :=
  happening.notification?.bind Notification.signal?

/-- What can happen while a request waits to be built: no action is carried out and no tests are
selected. -/
inductive Happening.IsBeside : Happening → Prop
  | rendered (now : Int) (notification : Notification) : IsBeside (.rendered now notification)
  | edited (filename content : String) : IsBeside (.edited filename content)
  | written (name text : String) : IsBeside (.written name text)

variable {page : Page} {happening : Happening} {happenings : List Happening}

/-- Nothing but the signal for a new round touches the selection. -/
theorem selectedTests_perform (hbeside : happening.IsBeside) (page : Page) :
    (page.perform happening).selectedTests =
      if happening.signal? = some .start then [] else page.selectedTests := by
  cases hbeside with
  | rendered now notification =>
      cases notification with
      | testResult feedback =>
          change ((page.touch now).showTestResult feedback).selectedTests = page.selectedTests
          unfold showTestResult
          split <;> rfl
      | _ => rfl
  | edited filename content => rfl
  | written name text => rfl

/-- Nothing but the signals touches the controls. -/
theorem isDisabled_perform (hbeside : happening.IsBeside) (page : Page) (action : Action) :
    (page.perform happening).isDisabled action =
      happening.signal?.elim (page.isDisabled action) (· == .stop) := by
  cases hbeside with
  | rendered now notification =>
      cases notification with
      | roundStart => rfl
      | roundStop notice => exact (page.touch now).isLocked_disable.disabled action
      | _ => refine isDisabled_of_lockState (page.lockState_render now ?_ ?_) action <;> nofun
  | edited filename content => rfl
  | written name text => rfl

theorem selectedTests_after (hbeside : ∀ happening ∈ happenings, happening.IsBeside) :
    (page.after happenings).selectedTests =
      if .start ∈ happenings.filterMap Happening.signal? then [] else page.selectedTests := by
  induction happenings generalizing page with
  | nil => rfl
  | cons happening rest ih =>
      obtain ⟨hfirst, hrest⟩ := List.forall_mem_cons.1 hbeside
      rw [after_cons, ih hrest, selectedTests_perform hfirst, List.filterMap_cons]
      cases hsignal : happening.signal? with
      | none => rfl
      | some signal => cases signal <;> simp

/-- The last signal decides. -/
theorem isDisabled_after (hbeside : ∀ happening ∈ happenings, happening.IsBeside)
    (action : Action) :
    (page.after happenings).isDisabled action =
      (happenings.filterMap Happening.signal?).getLast?.elim (page.isDisabled action)
        (· == .stop) := by
  induction happenings generalizing page with
  | nil => rfl
  | cons happening rest ih =>
      obtain ⟨hfirst, hrest⟩ := List.forall_mem_cons.1 hbeside
      rw [after_cons, ih hrest, isDisabled_perform hfirst, List.filterMap_cons]
      cases hsignal : happening.signal? with
      | none => rfl
      | some signal =>
          dsimp only [Option.elim_some]
          rw [List.getLast?_cons]
          cases (rest.filterMap Happening.signal?).getLast? <;> rfl

/-- What becomes of a request for tests while notifications are rendered, files are read again and
downloads are shown. -/
theorem prepare_test_after (hbeside : ∀ happening ∈ happenings, happening.IsBeside)
    (henabled : page.isDisabled .test = false) (team : String) :
    let signals := happenings.filterMap Happening.signal?
    (Submission.prepare team (page.after happenings) .test).2 =
      if signals.getLast? = some .stop then .error (.controlDisabled .test)
      else .ok
        { team
          source := (page.after happenings).sources
          tests := some (if .start ∈ signals then [] else page.selectedTests) } := by
  intro signals
  have hdisabled : (page.after happenings).isDisabled .test = _ := isDisabled_after hbeside .test
  rw [Submission.prepare, hdisabled, henabled]
  cases hlast : signals.getLast? with
  | none => simp [Submission.request, selectedTests_after hbeside, signals]
  | some signal =>
      cases signal <;> simp [Submission.request, selectedTests_after hbeside, signals]

end Page

namespace Client

variable {client : Client}

/-! ## Clients between the selection and the request -/

/-- The client begins to read the files again for an action, or goes on with it. -/
def IsRereading (client : Client) (action : Action) : Prop :=
  ∃ left, client.stage = .refreshing action left

theorem IsRereading.running {action : Action} (hrereading : client.IsRereading action) :
    client.stage ≠ .ended := by
  obtain ⟨left, hstage⟩ := hrereading
  rw [hstage]
  nofun

/-- The turn that builds the request goes on to send it or ends the line. -/
theorem stage_prepareAction (client : Client) (action : Action) :
    (client.prepareAction action).1.stage =
      if client.hasControl then
        match (Submission.prepare client.config.team client.page action).2 with
        | .error _ => .ready
        | .ok request => .sending action request
      else .ready := by
  cases hcontrol : client.hasControl with
  | false =>
      rw [prepareAction_of_unserved hcontrol]
      rfl
  | true =>
      cases hdisabled : client.page.isDisabled action with
      | false =>
          rw [prepareAction_of_enabled hcontrol hdisabled]
          simp [Submission.prepare, hdisabled]
      | true =>
          rw [prepareAction_of_disabled hcontrol hdisabled]
          simp [Submission.prepare, hdisabled]

theorem step_of_reread {action : Action} (hstage : client.stage = .refreshing action [])
    (read : FileReader) (now : Int) :
    client.step (.advance read now) = client.prepareAction action := by
  have hrereading : client.IsRereading action := ⟨[], hstage⟩
  rw [step, if_neg hrereading.running]
  simp only [advance, hstage]

/-- The reading ends with the turn that builds the request. -/
theorem not_isRereading_of_reread {action : Action} (hstage : client.stage = .refreshing action [])
    (read : FileReader) (now : Int) :
    ¬ (client.step (.advance read now)).1.IsRereading action := by
  rintro ⟨left, hleft⟩
  rw [step_of_reread hstage, stage_prepareAction] at hleft
  split at hleft
  · split at hleft <;> cases hleft
  · cases hleft

/-- While files are read again no action is carried out and no tests are selected. -/
theorem isBeside_of_isRereading {action : Action} {event : Event} {happening : Page.Happening}
    (hbefore : client.IsRereading action) (hafter : (client.step event).1.IsRereading action)
    (hhappening : client.happening? event = some happening) : happening.IsBeside := by
  unfold happening? at hhappening
  rw [if_neg hbefore.running] at hhappening
  obtain ⟨left, hstage⟩ := hbefore
  cases event with
  | render now =>
      obtain ⟨message, _, hrendered⟩ := Option.bind_eq_some_iff.1 hhappening
      split at hrendered
      · cases hrendered
        exact .rendered now _
      · cases hrendered
  | answer number answer =>
      obtain ⟨purpose, _, hshown⟩ := Option.bind_eq_some_iff.1 hhappening
      unfold shown? at hshown
      split at hshown
      · cases hshown
        exact .written _ _
      · cases hshown
  | advance read now =>
      dsimp only at hhappening
      rw [handled?, hstage] at hhappening
      cases left with
      | nil => exact absurd hafter (not_isRereading_of_reread hstage read now)
      | cons spec left =>
          obtain ⟨content, _, rfl⟩ := Option.map_eq_some_iff.1 hhappening
          exact .edited _ content
  | _ => cases hhappening

/-- A stretch in which the reading goes on keeps the configuration and does nothing else to the
page. -/
theorem isBeside_of_gap {action : Action} {gap : List Event} (hbefore : client.IsRereading action)
    (hgap : ∀ moment ∈ client.moments gap, moment.after.IsRereading action) :
    (∀ happening ∈ client.happenings gap, happening.IsBeside) ∧
      (client.run gap).1.config = client.config := by
  induction gap generalizing client with
  | nil => exact ⟨nofun, rfl⟩
  | cons event rest ih =>
      rw [moments_cons] at hgap
      obtain ⟨hfirst, hrest⟩ := List.forall_mem_cons.1 hgap
      have hafter : (client.step event).1.IsRereading action := hfirst
      obtain ⟨hlater, hconfig⟩ := ih hafter hrest
      constructor
      · intro happening hmem
        rw [happenings_cons] at hmem
        rcases List.mem_append.1 hmem with hnow | hthen
        · exact isBeside_of_isRereading hbefore hafter (Option.mem_toList.1 hnow)
        · exact hlater happening hthen
      · rw [run_cons]
        exact hconfig.trans (config_step hafter.running)

/-! ## The request of a line -/

/-- The signals that are rendered in a run. -/
def signals (client : Client) (events : List Event) : List Signal :=
  (client.notifications events).filterMap Notification.signal?

theorem signals_eq (client : Client) (events : List Event) :
    client.signals events = (client.happenings events).filterMap Page.Happening.signal? := by
  rw [signals, notifications, List.filterMap_filterMap]
  rfl

/-- A line that names tests selects them, if the control is enabled. -/
theorem step_of_test_line {line : String} {rest names : List String}
    (hready : client.stage = .ready) (hlines : client.lines = line :: rest)
    (hcommand : UserCommand.ofLine line = .test names)
    (henabled : client.page.isDisabled .test = false) (read : FileReader) (now : Int) :
    (client.step (.advance read now)).1 =
      { client with
        lines := rest
        page := client.page.selectTests names
        stage := .refreshing .test client.config.editableFiles } := by
  have hrunning : client.stage ≠ .ended := by
    rw [hready]
    nofun
  rw [step, if_neg hrunning]
  simp [advance, hready, hlines, hcommand, handleCommand, selectTests, henabled]

/-- A line that names tests is taken up while the control is enabled, and its files are read again
while other things happen to the client. If the last signal rendered meanwhile is that for the end
of a round, the request is refused. Otherwise it asks for the tests of the line, but for none if a
new round has begun meanwhile. -/
theorem prepare_of_test_line {line : String} {rest names : List String}
    (hready : client.stage = .ready) (hlines : client.lines = line :: rest)
    (hcommand : UserCommand.ofLine line = .test names)
    (henabled : client.page.isDisabled .test = false) (read : FileReader) (now : Int)
    {gap : List Event}
    (hgap : ∀ moment ∈ (client.step (.advance read now)).1.moments gap,
      moment.after.IsRereading .test) :
    let begun := (client.step (.advance read now)).1
    let asked := (begun.run gap).1
    let signals := begun.signals gap
    let prepared := (Submission.prepare asked.config.team asked.page .test).2
    (prepared =
      if signals.getLast? = some .stop then .error (.controlDisabled .test)
      else .ok
        { team := client.config.team
          source := asked.page.sources
          tests := some (if .start ∈ signals then [] else names) }) ∧
      (asked.stage = .refreshing .test [] → asked.hasControl = true → ∀ read now,
        (asked.step (.advance read now)).1.stage =
          match prepared with
          | .error _ => .ready
          | .ok request => .sending .test request) := by
  intro begun asked signals prepared
  have hbegun : begun = _ := step_of_test_line hready hlines hcommand henabled read now
  have hrereading : begun.IsRereading .test := ⟨client.config.editableFiles, by rw [hbegun]⟩
  obtain ⟨hbeside, hconfig⟩ := isBeside_of_gap hrereading hgap
  have hpage : asked.page = begun.page.after (begun.happenings gap) := begun.page_run gap
  have hteam : asked.config.team = client.config.team := by
    have hsame : asked.config = begun.config := hconfig
    rw [hsame, hbegun]
  have hprepared := Page.prepare_test_after hbeside
    (show begun.page.isDisabled .test = false by rw [hbegun]; exact henabled) asked.config.team
  constructor
  · have hselected : begun.page.selectedTests = names := by
      rw [hbegun]
      rfl
    rw [← hpage, ← begun.signals_eq, hselected] at hprepared
    rw [← hteam]
    exact hprepared
  · intro hstage hcontrol read now
    rw [step_of_reread hstage, stage_prepareAction, if_pos hcontrol]

/-- A result is rendered while a file is read again, and the request asks for the tests of the
line. -/
theorem prepare_of_test_line_result :
    let config : Config :=
      { Session.localConfig with files := [{ path := "A.java", kind := .edit }] }
    let disk : FileReader := fun _ => .ok "old"
    let later : FileReader := fun _ => .ok "new"
    let result : Frame := { Frame.bare .message [("subscription", "sub-1")] with body := "{}" }
    let gap : List Event := [.receive .submit (.text result.encode), .render 1, .advance later 1]
    ∃ client outputs,
      start config disk (fun _ => Manager.grantedAttempt) = (.ok client, outputs) ∧
        let typed := (client.run [.answer 0 (.failed "refused"), .line "test t1 t2"]).1
        let begun := (typed.step (.advance disk 0)).1
        let asked := (begun.run gap).1
        typed.page.isDisabled .test = false ∧
          (∀ moment ∈ begun.moments gap, moment.after.IsRereading .test) ∧
          (asked.step (.advance later 2)).1.stage = .sending .test
            { team := "team1"
              source := [{ filename := "A.java", content := "new" }]
              tests := some ["t1", "t2"] } := by
  intro config disk later result gap
  have hseen : ∃ client ∈ (start config disk fun _ => Manager.grantedAttempt).1.toOption,
      let typed := (client.run [.answer 0 (.failed "refused"), .line "test t1 t2"]).1
      let begun := (typed.step (.advance disk 0)).1
      let asked := (begun.run gap).1
      (typed.stage = .ready ∧ typed.lines = ["test t1 t2"] ∧ typed.page.isDisabled .test = false ∧
        typed.config.team = "team1") ∧
      ((begun.moments gap).map (fun moment => moment.after.stage) =
        [.refreshing .test config.files, .refreshing .test config.files, .refreshing .test []] ∧
        begun.signals gap = []) ∧
      asked.stage = .refreshing .test [] ∧ asked.hasControl = true ∧
        asked.page.sources = [{ filename := "A.java", content := "new" }] := by
    decide +kernel
  obtain ⟨client, outputs, hstart, ⟨hready, hlines, henabled, hteam⟩, ⟨hstages, hsignals⟩, hstage,
    hcontrol, hsources⟩ := exists_of_start hseen
  refine ⟨client, outputs, hstart, ?_⟩
  intro typed begun asked
  have hgap : ∀ moment ∈ begun.moments gap, moment.after.IsRereading .test := by
    intro moment hmem
    have hstage : moment.after.stage ∈ (begun.moments gap).map fun moment => moment.after.stage :=
      List.mem_map_of_mem hmem
    rw [hstages] at hstage
    simp only [List.mem_cons, List.not_mem_nil, or_false] at hstage
    rcases hstage with hfirst | hfirst | hlast
    · exact ⟨_, hfirst⟩
    · exact ⟨_, hfirst⟩
    · exact ⟨_, hlast⟩
  have hcommand : UserCommand.ofLine "test t1 t2" = .test ["t1", "t2"] := by decide
  obtain ⟨hprepared, hnext⟩ :=
    prepare_of_test_line hready hlines hcommand henabled disk 0 hgap
  refine ⟨henabled, hgap, ?_⟩
  have hsent := hnext hstage hcontrol later 2
  rw [hprepared, hsignals, hsources, hteam] at hsent
  exact hsent

/-- A new round begins while a file is read again. The line names a test, the control is enabled,
and the request asks for no tests. -/
theorem test_line_loses_tests :
    let config : Config :=
      { Session.localConfig with files := [{ path := "A.java", kind := .edit }] }
    let disk : FileReader := fun _ => .ok "class A"
    let started : Frame := Frame.bare .message [("destination", "/queue/start")]
    ∃ client outputs,
      start config disk (fun _ => Manager.grantedAttempt) = (.ok client, outputs) ∧
        let typed := (client.run [.answer 0 (.failed "refused"), .line "test t1"]).1
        let asked := (typed.run [.advance disk 0, .receive .control (.text started.encode),
          .render 1, .advance disk 1]).1
        typed.stage = .ready ∧ typed.lines.map UserCommand.ofLine = [.test ["t1"]] ∧
          typed.page.isDisabled .test = false ∧
          (asked.step (.advance disk 2)).1.stage = .sending .test
            { team := "team1"
              source := [{ filename := "A.java", content := "class A" }]
              tests := some [] } := by
  intro config disk started
  apply exists_of_start
  decide +kernel

end Client

end ClassroomClient
