/-
# What a step of the client changes

A step does one of a few things to the lock of the page, to the stage of the line that is being
handled and to the downloads that a line waits for. `Change` lists them, each with what leads to
it, and `step_change` says that no step does anything else. What holds of every state is then
proved from this list alone.
-/

import ClassroomClient.Client.Step
import ClassroomClient.Proofs.Exchange.Notification
import ClassroomClient.Proofs.Page.Lock
import ClassroomClient.Proofs.Session.Manager

namespace ClassroomClient

open Exchange

namespace Client

/-! ## What is looked at -/

/-- Whether there is a session that requests are sent on. -/
def hasControl (client : Client) : Bool := (client.manager.session? .control).isSome

/-- The number of downloads on which the handling of a line waits. -/
def listings (client : Client) : Nat :=
  (client.downloads.filter (·.2 == Purpose.listing)).length

/-- The event lets the client render a message of the topic. -/
def Renders (client : Client) (event : Event) (topic : String) : Prop :=
  client.stage ≠ .ended ∧ ∃ now message rest,
    event = .render now ∧ client.queue = message :: rest ∧ message.topic = topic

/-- The client comes to a stage with the lock that a page has and with no more listings than
given. It keeps its configuration and its control session and puts nothing on a connection. -/
structure Moves (client : Client) (page : Page) (stage : Stage) (listings : Nat)
    (result : Client × List Output) : Prop where
  config : result.1.config = client.config
  control : result.1.hasControl = client.hasControl
  lock : result.1.page.lockState = page.lockState
  stage : result.1.stage = stage
  listings : result.1.listings ≤ listings
  silent : Output.wires result.2 = []

/-- What a step changes, with what leads to it. -/
inductive Change (client : Client) : Event → Client × List Output → Prop
  /-- Nothing that is looked at changes. -/
  | quiet {event : Event} {result : Client × List Output}
      (hmoves : client.Moves client.page client.stage client.listings result) :
      Change client event result
  /-- A line asks for the listing of the files. -/
  | asked {read : FileReader} {now : Int} {result : Client × List Output}
      (hready : client.stage = .ready)
      (hmoves : client.Moves client.page .listing (client.listings + 1) result) :
      Change client (.advance read now) result
  /-- The listing that a line waits for is answered. -/
  | listed {number : Nat} {answer : HttpAnswer} {result : Client × List Output}
      (hrunning : client.stage ≠ .ended) (hlisting : 0 < client.listings)
      (hmoves : client.Moves client.page .ready (client.listings - 1) result) :
      Change client (.answer number answer) result
  /-- A line begins an action. -/
  | began {read : FileReader} {now : Int} {line : String} {rest : List String} {action : Action}
      {result : Client × List Output}
      (hready : client.stage = .ready) (hlines : client.lines = line :: rest)
      (haction : (UserCommand.ofLine line).action? = some action)
      (hmoves : client.Moves client.page (.refreshing action client.config.editableFiles)
        client.listings result) :
      Change client (.advance read now) result
  /-- A file is read again. -/
  | refreshed {read : FileReader} {now : Int} {action : Action} {spec : FileSpec}
      {left : List FileSpec} {result : Client × List Output}
      (hstage : client.stage = .refreshing action (spec :: left))
      (hmoves : client.Moves client.page (.refreshing action left) client.listings result) :
      Change client (.advance read now) result
  /-- There is no session to send the request on. -/
  | unserved {read : FileReader} {now : Int} {action : Action} {result : Client × List Output}
      (hstage : client.stage = .refreshing action []) (hcontrol : client.hasControl = false)
      (hmoves : client.Moves client.page .ready client.listings result) :
      Change client (.advance read now) result
  /-- The control of the action is disabled. -/
  | refused {read : FileReader} {now : Int} {action : Action} {result : Client × List Output}
      (hstage : client.stage = .refreshing action [])
      (hdisabled : client.page.isDisabled action = true)
      (hanswer : result.2 =
        [.print (Display.error (DispatchError.controlDisabled action).message), client.prompt])
      (hmoves : client.Moves client.page .ready client.listings result) :
      Change client (.advance read now) result
  /-- The request of the action is built. -/
  | prepared {read : FileReader} {now : Int} {action : Action} {request : Request}
      {result : Client × List Output}
      (hstage : client.stage = .refreshing action [])
      (henabled : client.page.isDisabled action = false)
      (hmoves : client.Moves (Submission.pageAfter client.page action) (.sending action request)
        client.listings result) :
      Change client (.advance read now) result
  /-- The request is sent, or fails to be. -/
  | sent {read : FileReader} {now : Int} {action : Action} {request : Request} {after : Client}
      {log : WireLog} {printed : List Output}
      (hstage : client.stage = .sending action request)
      (hmoves : client.Moves client.page .ready client.listings (after, printed)) :
      Change client (.advance read now) (after, wireOutputs log ++ printed)
  /-- The signal for the end of a round is rendered. -/
  | stopped {event : Event} {result : Client × List Output}
      (hrenders : client.Renders event Route.roundStop)
      (hmoves : client.Moves client.page.disable client.stage client.listings result) :
      Change client event result
  /-- The signal for a new round is rendered. -/
  | started {event : Event} {result : Client × List Output}
      (hrenders : client.Renders event Route.roundStart)
      (hmoves : client.Moves client.page.reload client.stage client.listings result) :
      Change client event result
  /-- The client ends. -/
  | ended {read : FileReader} {now : Int} {result : Client × List Output}
      (hready : client.stage = .ready) (hpage : result.1.page = client.page)
      (hended : result.1.stage = .ended) :
      Change client (.advance read now) result

/-! ## Starts -/

/-- The opening of the channels with which a client starts. -/
def firstOpening (config : Config) (attempt : Channel → Attempt)
    (meanwhile : Task → List Incident) : Opening Unit :=
  Manager.empty.opening config () attempt meanwhile

/-- The client that has opened its channels and has not asked for anything yet. -/
def opened (config : Config) (page : Page) (opening : Opening Unit) : Client where
  config
  page
  manager := opening.manager
  queue := opening.delivered.map (·.2)
  watched := opening.manager.channels
  stage := .listing

/-- A client that starts has loaded its page and opened its channels, and asks for the listing. -/
theorem exists_opened_of_start {config : Config} {read : FileReader} {attempt : Channel → Attempt}
    {meanwhile : Task → List Incident} {client : Client} {outputs : List Output}
    (hstart : start config read attempt meanwhile = (.ok client, outputs)) :
    ∃ page, loadPage read config.files = .ok page ∧
      (firstOpening config attempt meanwhile).result = .ok () ∧
      client =
        ((opened config page (firstOpening config attempt meanwhile)).fetchListing .listing).1 := by
  unfold start at hstart
  split at hstart
  · cases hstart
  · next page hload =>
    dsimp only at hstart
    split at hstart
    · cases hstart
    · next hopened =>
      cases hstart
      exact ⟨page, hload, hopened, rfl⟩

/-! ## Outputs -/

theorem wires_append (first second : List Output) :
    Output.wires (first ++ second) = Output.wires first ++ Output.wires second :=
  List.filterMap_append

@[simp] theorem wires_wireOutputs (log : WireLog) : Output.wires (wireOutputs log) = log := by
  induction log with
  | nil => rfl
  | cons event rest ih => exact congrArg (event :: ·) ih

theorem wires_printRegion (page : Page) (name : String) :
    Output.wires (printRegion page name) = [] := by
  unfold printRegion
  split <;> rfl

theorem wires_announce (page : Page) (notification : Notification) :
    Output.wires (announce page notification) = [] := by
  unfold announce
  split
  · rfl
  · rfl
  · split
    · exact wires_printRegion page _
    · rfl

/-! ## Moves -/

variable {client : Client}

/-- A client that only puts something out stays where it is. -/
theorem moves_self (client : Client) {outputs : List Output}
    (hsilent : Output.wires outputs = []) :
    client.Moves client.page client.stage client.listings (client, outputs) :=
  ⟨rfl, rfl, rfl, rfl, Nat.le_refl _, hsilent⟩

/-- One move after the other, with what both put out. -/
theorem Moves.andThen {page : Page} {stage last : Stage} {listings remaining : Nat}
    {result next : Client × List Output} (hfirst : client.Moves page stage listings result)
    (hnext : result.1.Moves result.1.page last remaining next) :
    client.Moves page last remaining (next.1, result.2 ++ next.2) where
  config := hnext.config.trans hfirst.config
  control := hnext.control.trans hfirst.control
  lock := hnext.lock.trans hfirst.lock
  stage := hnext.stage
  listings := hnext.listings
  silent := by
    rw [wires_append, hfirst.silent, hnext.silent]
    rfl

/-- A move after one that stays on its stage. -/
theorem Moves.andKeep {page : Page} {stage : Stage} {listings : Nat}
    {result next : Client × List Output} (hfirst : client.Moves page stage listings result)
    (hnext : result.1.Moves result.1.page result.1.stage result.1.listings next) :
    client.Moves page stage listings (next.1, result.2 ++ next.2) := by
  have hboth := hfirst.andThen hnext
  exact ⟨hboth.config, hboth.control, hboth.lock, hboth.stage.trans hfirst.stage,
    Nat.le_trans hboth.listings hfirst.listings, hboth.silent⟩

/-! ## Downloads -/

/-- A download for another purpose is none that a line waits for. -/
theorem listings_append_of_ne (client : Client) (number : Nat) {purpose : Purpose}
    (hother : purpose ≠ .listing) :
    ((client.downloads ++ [(number, purpose)]).filter (·.2 == Purpose.listing)).length =
      client.listings := by
  have hnone : [(number, purpose)].filter (·.2 == Purpose.listing) = [] := by
    simpa using hother
  rw [List.filter_append, hnone, List.append_nil]
  rfl

theorem moves_fetchRankings (client : Client) :
    client.Moves client.page client.stage client.listings client.fetchRankings := by
  unfold fetchRankings
  split
  · exact client.moves_self rfl
  · split
    · exact client.moves_self rfl
    · exact ⟨rfl, rfl, rfl, rfl, Nat.le_of_eq (client.listings_append_of_ne _ (by decide)), rfl⟩

theorem moves_endListing (client : Client) :
    client.Moves client.page .ready client.listings client.endListing :=
  ⟨rfl, rfl, rfl, rfl, Nat.le_refl _, rfl⟩

/-- After a reload the listing is fetched beside everything else. -/
theorem moves_fetchListing_reloaded (client : Client) :
    client.Moves client.page client.stage client.listings
      (client.fetchListing .reloadedListing) := by
  unfold fetchListing
  split
  · exact client.moves_fetchRankings
  · exact ⟨rfl, rfl, rfl, rfl, Nat.le_of_eq (client.listings_append_of_ne _ (by decide)), rfl⟩

/-- A line that asks for the listing waits for it, unless it cannot be asked for. -/
theorem moves_fetchListing (client : Client) :
    client.Moves client.page .ready client.listings (client.fetchListing .listing) ∨
      client.Moves client.page client.stage (client.listings + 1)
        (client.fetchListing .listing) := by
  unfold fetchListing
  split
  · exact .inl client.moves_endListing
  · right
    refine ⟨rfl, rfl, rfl, rfl, ?_, rfl⟩
    rw [listings, List.filter_append, List.length_append]
    exact Nat.add_le_add_left (List.length_filter_le _ _) _

theorem moves_showListing (client : Client) (result : Except HttpError (Option String)) :
    client.Moves client.page client.stage client.listings (client.showListing result) := by
  unfold showListing
  split
  · exact ⟨rfl, rfl, client.page.lockState_setRegion _ _, rfl, Nat.le_refl _,
      wires_printRegion _ _⟩
  · exact client.moves_self rfl

theorem moves_showRankings (client : Client) (result : Except HttpError (Option String)) :
    client.Moves client.page client.stage client.listings (client.showRankings result) := by
  unfold showRankings
  split
  · exact ⟨rfl, rfl, client.page.lockState_setRegion _ _, rfl, Nat.le_refl _,
      wires_printRegion _ _⟩
  · exact client.moves_self rfl

/-- The client without the download of a number. -/
def answered (client : Client) (number : Nat) : Client :=
  { client with downloads := client.downloads.filter fun (other, _) => other != number }

theorem listings_answered_eq (client : Client) (number : Nat) :
    (client.answered number).listings =
      ((client.downloads.filter (·.2 == Purpose.listing)).filter (·.1 != number)).length := by
  rw [listings, answered, List.filter_filter, List.filter_filter]
  congr 2
  funext download
  exact Bool.and_comm _ _

theorem listings_answered (client : Client) (number : Nat) :
    (client.answered number).listings ≤ client.listings := by
  rw [listings_answered_eq]
  exact List.length_filter_le _ _

/-- An answer for a line ends one of the waits. -/
theorem listings_answered_lt (client : Client) {number : Nat}
    (hfound : client.downloads.lookup number = some .listing) :
    (client.answered number).listings < client.listings := by
  have hmem : (number, Purpose.listing) ∈ client.downloads := by
    obtain ⟨front, back, hsplit, _⟩ := List.lookup_eq_some_iff.1 hfound
    rw [hsplit]
    simp
  rw [listings_answered_eq, listings, List.length_filter_lt_length_iff_exists]
  refine ⟨(number, .listing), List.mem_filter.2 ⟨hmem, rfl⟩, ?_⟩
  simp

/-- Whatever an answer is for, nothing but the wait of a line ends. -/
theorem change_takeAnswer {client : Client} (hrunning : client.stage ≠ .ended) (number : Nat)
    (answer : HttpAnswer) :
    client.Change (.answer number answer) (client.takeAnswer number answer) := by
  have hanswered : client.Moves client.page client.stage client.listings
      (client.answered number, []) :=
    ⟨rfl, rfl, rfl, rfl, client.listings_answered number, rfl⟩
  unfold takeAnswer
  split
  · exact .quiet (client.moves_self rfl)
  · next purpose hfound =>
    cases purpose with
    | listing =>
        have hlt := client.listings_answered_lt hfound
        have hpositive : 0 < client.listings := Nat.lt_of_le_of_lt (Nat.zero_le _) hlt
        apply Change.listed hrunning hpositive
        have hshown := (client.answered number).moves_showListing (Download.files.read answer)
        have hended := hanswered.andThen (hshown.andThen (moves_endListing _))
        exact ⟨hended.config, hended.control, hended.lock, hended.stage,
          Nat.le_trans (hshown.listings) (Nat.le_sub_one_of_lt hlt), hended.silent⟩
    | reloadedListing =>
        apply Change.quiet
        have hshown := (client.answered number).moves_showListing (Download.files.read answer)
        exact hanswered.andKeep (hshown.andKeep (moves_fetchRankings _))
    | rankings =>
        apply Change.quiet
        have hshown := (client.answered number).moves_showRankings
          ((rankingsDownload (client.config.rankingsPath.getD "")).read answer)
        exact hanswered.andKeep (hshown.andKeep (moves_self _ rfl))

/-! ## Messages -/

/-- Rendering changes the lock as the page says, and nothing else that is looked at. -/
theorem moves_renderNotification (client : Client) (now : Int) (notification : Notification) :
    client.Moves (client.page.render now notification).1 client.stage client.listings
      (client.renderNotification now notification) := by
  have hfollow (next : FollowUp) :
      let shown : Client := { client with page := (client.page.render now notification).1 }
      shown.Moves shown.page shown.stage shown.listings (shown.followUp next) := by
    intro shown
    cases next with
    | none => exact shown.moves_self rfl
    | reloaded => exact shown.moves_fetchListing_reloaded
    | refreshRankings => exact shown.moves_fetchRankings
  have hnext := hfollow (client.page.render now notification).2
  refine ⟨hnext.config, hnext.control, hnext.lock, hnext.stage, hnext.listings, ?_⟩
  change Output.wires (announce _ notification ++ _ :: _) = []
  rw [wires_append, wires_announce]
  exact hnext.silent

/-- Rendering the signal for the end of a round locks the page, whatever the body holds. -/
theorem moves_renderNext_of_stop {client : Client} {now : Int} {message : Inbound}
    {rest : List Inbound} (hqueue : client.queue = message :: rest)
    (htopic : message.topic = Route.roundStop) :
    client.Moves client.page.disable client.stage client.listings (client.renderNext now) := by
  obtain ⟨notice, hdecode⟩ := Notification.decode_roundStop message.body
  have hmoves := moves_renderNotification { client with queue := rest } now (.roundStop notice)
  simp only [renderNext, hqueue, htopic, hdecode]
  exact ⟨hmoves.config, hmoves.control, hmoves.lock, hmoves.stage, hmoves.listings, hmoves.silent⟩

/-- Rendering the signal for a new round opens the page. -/
theorem moves_renderNext_of_start {client : Client} {now : Int} {message : Inbound}
    {rest : List Inbound} (hqueue : client.queue = message :: rest)
    (htopic : message.topic = Route.roundStart) :
    client.Moves client.page.reload client.stage client.listings (client.renderNext now) := by
  have hmoves := moves_renderNotification { client with queue := rest } now .roundStart
  simp only [renderNext, hqueue, htopic, Notification.decode_roundStart]
  exact ⟨hmoves.config, hmoves.control, hmoves.lock, hmoves.stage, hmoves.listings, hmoves.silent⟩

theorem change_renderNext {client : Client} (hrunning : client.stage ≠ .ended) (now : Int) :
    client.Change (.render now) (client.renderNext now) := by
  cases hqueue : client.queue with
  | nil =>
      rw [renderNext, hqueue]
      exact .quiet (client.moves_self rfl)
  | cons message rest =>
      by_cases hstop : message.topic = Route.roundStop
      · exact .stopped ⟨hrunning, now, message, rest, rfl, hqueue, hstop⟩
          (moves_renderNext_of_stop hqueue hstop)
      by_cases hstart : message.topic = Route.roundStart
      · exact .started ⟨hrunning, now, message, rest, rfl, hqueue, hstart⟩
          (moves_renderNext_of_start hqueue hstart)
      apply Change.quiet
      simp only [renderNext, hqueue]
      cases hdecode : Notification.decode message.topic message.body with
      | error error => exact ⟨rfl, rfl, rfl, rfl, Nat.le_refl _, rfl⟩
      | ok notification =>
          have htopic := Notification.topic_of_decode hdecode
          have hlock : (client.page.render now notification).1.lockState = client.page.lockState :=
            client.page.lockState_render now (fun h => hstart (htopic.1 h))
              fun notice h => hstop (htopic.2 notice h)
          have hmoves := moves_renderNotification { client with queue := rest } now notification
          exact ⟨hmoves.config, hmoves.control, hmoves.lock.trans hlock, hmoves.stage,
            hmoves.listings, hmoves.silent⟩

/-! ## Lines -/

/-- A test line may choose tests, which leaves the lock as it is. -/
theorem lockState_chooseTests (page : Page) (names : List String) :
    (selectTests page names).lockState = page.lockState := by
  unfold selectTests
  split
  · rfl
  · exact page.lockState_selectTests names

theorem change_handleCommand {client : Client} {line : String} {rest : List String}
    (hready : client.stage = .ready) (hlines : client.lines = line :: rest) (read : FileReader)
    (now : Int) :
    client.Change (.advance read now)
      ({ client with lines := rest }.handleCommand (.ofLine line)) := by
  have hquiet (text : String) : client.Change (.advance read now)
      ({ client with lines := rest }.printPrompted text) :=
    .quiet ⟨rfl, rfl, rfl, rfl, Nat.le_refl _, rfl⟩
  cases hcommand : UserCommand.ofLine line with
  | quit => exact .ended hready rfl rfl
  | help => exact hquiet _
  | page => exact hquiet _
  | unknown text => exact hquiet _
  | files =>
      rcases moves_fetchListing { client with lines := rest, stage := .listing } with
        hmoves | hmoves
      · apply Change.quiet
        exact ⟨hmoves.config, hmoves.control, hmoves.lock, hmoves.stage.trans hready.symm,
          hmoves.listings, hmoves.silent⟩
      · apply Change.asked hready
        exact ⟨hmoves.config, hmoves.control, hmoves.lock, hmoves.stage, hmoves.listings,
          hmoves.silent⟩
  | compile =>
      apply Change.began hready hlines (by rw [hcommand]; rfl)
      exact ⟨rfl, rfl, rfl, rfl, Nat.le_refl _, rfl⟩
  | test names =>
      apply Change.began hready hlines (by rw [hcommand]; rfl)
      exact ⟨rfl, rfl, lockState_chooseTests client.page names, rfl, Nat.le_refl _, rfl⟩
  | submit =>
      apply Change.began hready hlines (by rw [hcommand]; rfl)
      exact ⟨rfl, rfl, rfl, rfl, Nat.le_refl _, rfl⟩

/-- Without a control session an action ends at once. -/
theorem prepareAction_of_unserved {client : Client} {action : Action}
    (hcontrol : client.hasControl = false) :
    client.prepareAction action =
      ({ client with stage := .ready },
        [.print (Display.error "Control channel is not open")]) := by
  have hsession : client.manager.session? .control = none := by
    simpa [hasControl] using hcontrol
  rw [prepareAction, hsession]

/-- An action that the page allows gets its request and changes the page at once. -/
theorem prepareAction_of_enabled {client : Client} {action : Action}
    (hcontrol : client.hasControl = true) (henabled : client.page.isDisabled action = false) :
    client.prepareAction action =
      ({ client with
          page := Submission.pageAfter client.page action
          stage := .sending action (Submission.request client.config.team client.page action) },
        []) := by
  obtain ⟨session, hsession⟩ := Option.isSome_iff_exists.1 hcontrol
  simp [prepareAction, hsession, Submission.prepare, henabled]

/-- A disabled control refuses its action with a message. -/
theorem prepareAction_of_disabled {client : Client} {action : Action}
    (hcontrol : client.hasControl = true) (hdisabled : client.page.isDisabled action = true) :
    client.prepareAction action =
      ({ client with stage := .ready },
        [.print (Display.error (DispatchError.controlDisabled action).message),
          client.prompt]) := by
  obtain ⟨session, hsession⟩ := Option.isSome_iff_exists.1 hcontrol
  simp only [prepareAction, hsession, Submission.prepare, hdisabled, if_true]
  rfl

theorem change_prepareAction {client : Client} {action : Action}
    (hstage : client.stage = .refreshing action []) (read : FileReader) (now : Int) :
    client.Change (.advance read now) (client.prepareAction action) := by
  cases hcontrol : client.hasControl with
  | false =>
      apply Change.unserved hstage hcontrol
      rw [prepareAction_of_unserved hcontrol]
      exact ⟨rfl, rfl, rfl, rfl, Nat.le_refl _, rfl⟩
  | true =>
      cases hdisabled : client.page.isDisabled action with
      | false =>
          apply Change.prepared hstage hdisabled
          rw [prepareAction_of_enabled hcontrol hdisabled]
          exact ⟨rfl, rfl, rfl, rfl, Nat.le_refl _, rfl⟩
      | true =>
          have hrefused := prepareAction_of_disabled hcontrol hdisabled
          apply Change.refused hstage hdisabled (by rw [hrefused])
          rw [hrefused]
          exact ⟨rfl, rfl, rfl, rfl, Nat.le_refl _, rfl⟩

theorem change_sendRequest {client : Client} {action : Action} {request : Request}
    (hstage : client.stage = .sending action request) (read : FileReader) (now : Int) :
    client.Change (.advance read now) (client.sendRequest now action request) := by
  have hcontrol := client.manager.isSome_send .control .control action.destination
    (String.ofList request.text)
  unfold sendRequest
  apply Change.sent hstage
  exact ⟨rfl, hcontrol, rfl, rfl, Nat.le_refl _, rfl⟩

theorem change_advance (client : Client) (read : FileReader) (now : Int) :
    client.Change (.advance read now) (client.advance read now) := by
  unfold advance
  split
  · next hready =>
    split
    · next line rest hlines => exact change_handleCommand hready hlines read now
    · split
      · exact .quiet (client.moves_self rfl)
      · exact .ended hready rfl rfl
  · exact .quiet (client.moves_self rfl)
  · exact .quiet (client.moves_self rfl)
  · next action spec left hstage =>
    apply Change.refreshed hstage
    exact ⟨rfl, rfl, lockState_refreshEditor read client.page spec, rfl, Nat.le_refl _, rfl⟩
  · next action hstage => exact change_prepareAction hstage read now
  · next action request hstage => exact change_sendRequest hstage read now

/-! ## All steps -/

/-- A step makes one of the changes that are listed. -/
theorem step_change (client : Client) (event : Event) :
    client.Change event (client.step event) := by
  unfold step
  split
  · exact .quiet (client.moves_self rfl)
  · next hrunning =>
    cases event with
    | line text =>
        apply Change.quiet
        unfold takeLine
        dsimp only
        split
        · exact client.moves_self rfl
        · exact ⟨rfl, rfl, rfl, rfl, Nat.le_refl _, rfl⟩
    | endOfInput => exact .quiet ⟨rfl, rfl, rfl, rfl, Nat.le_refl _, rfl⟩
    | advance read now => exact client.change_advance read now
    | receive channel event =>
        exact .quiet ⟨rfl, client.manager.isSome_receive channel .control event, rfl, rfl,
          Nat.le_refl _, rfl⟩
    | lose channel reason =>
        apply Change.quiet
        refine ⟨rfl, ?_, rfl, rfl, Nat.le_refl _, rfl⟩
        exact client.manager.isSome_lose channel .control reason
    | render now => exact change_renderNext hrunning now
    | answer number answer => exact change_takeAnswer hrunning number answer
    | look channel =>
        apply Change.quiet
        change client.Moves client.page client.stage client.listings (client.look channel)
        unfold look
        split
        · refine ⟨rfl, rfl, rfl, rfl, Nat.le_refl _, rfl⟩
        · exact client.moves_self rfl

end Client

end ClassroomClient
