/-
# What a step of the client does to the page and to the queue

A step renders the message that waits first, carries out an action, or does one of a few smaller
things to the page, to the sessions or to the queue. `Effect` lists them, each with the event and
with what it does to all three, and `step_effect` says that no step does anything else. Printing,
downloading and the handling of lines have no part in it.
-/

import ClassroomClient.Proofs.Client.Change

namespace ClassroomClient

open Exchange

namespace Client

/-- The page, the sessions and the messages that wait. -/
def core (client : Client) : Page × Manager Unit × List Inbound :=
  (client.page, client.manager, client.queue)

/-- What a step does to the page, to the sessions and to the queue. -/
inductive Effect (client : Client) : Event → Page × Manager Unit × List Inbound → Prop
  | kept (event : Event) : Effect client event (client.page, client.manager, client.queue)
  /-- What comes in may leave a message in the queue. -/
  | received (channel : Channel) (event : SocketEvent) :
      Effect client (.receive channel event)
        (client.page, (client.manager.receive channel event).1,
          client.queue ++ ((client.manager.receive channel event).2.map (·.2)).toList)
  | lost (channel : Channel) (reason : String) :
      Effect client (.lose channel reason)
        (client.page,
          client.manager.set channel ((client.manager.session? channel).map (·.lose reason)),
          client.queue)
  /-- The message that waits first is rendered. -/
  | rendered {now : Int} {message : Inbound} {rest : List Inbound} {notification : Notification}
      (hrunning : client.stage ≠ .ended) (hqueue : client.queue = message :: rest)
      (hdecode : Notification.decode message.topic message.body = .ok notification) :
      Effect client (.render now)
        ((client.page.render now notification).1, client.manager, rest)
  /-- The message that waits first has no meaning. -/
  | skipped {now : Int} {message : Inbound} {rest : List Inbound}
      (hqueue : client.queue = message :: rest) :
      Effect client (.render now) (client.page, client.manager, rest)
  /-- The tests of a line are chosen. -/
  | selected (read : FileReader) (now : Int) (names : List String) :
      Effect client (.advance read now)
        (client.page.selectTests names, client.manager, client.queue)
  /-- A file is read again. -/
  | edited (read : FileReader) (now : Int) (filename content : String) :
      Effect client (.advance read now)
        (client.page.setContent filename content, client.manager, client.queue)
  /-- The page accepts an action. -/
  | acted {read : FileReader} {now : Int} {action : Action}
      (hstage : client.stage = .refreshing action [])
      (henabled : client.page.isDisabled action = false) :
      Effect client (.advance read now)
        (Submission.pageAfter client.page action, client.manager, client.queue)
  /-- A request is sent, or fails to be. -/
  | sent (read : FileReader) (now : Int) (destination payload : String) :
      Effect client (.advance read now)
        (client.page, (client.manager.send .control destination payload).1, client.queue)
  /-- All sessions are torn down. -/
  | ended (read : FileReader) (now : Int) :
      Effect client (.advance read now)
        (client.page, client.manager.disconnectAll.1, client.queue)
  /-- A download is shown. -/
  | shown (number : Nat) (answer : HttpAnswer) {name : String} (text : String)
      (hname : name = Region.files ∨ name = Region.rankings) :
      Effect client (.answer number answer)
        (client.page.setRegion name text, client.manager, client.queue)

/-! ## Downloads -/

@[simp] theorem core_fetchRankings (client : Client) :
    client.fetchRankings.1.core = client.core := by
  unfold fetchRankings
  split
  · rfl
  · split <;> rfl

@[simp] theorem core_fetchListing (client : Client) (purpose : Purpose) :
    (client.fetchListing purpose).1.core = client.core := by
  unfold fetchListing
  split
  · split
    · exact client.core_fetchRankings
    · rfl
  · rfl

/-- A listing is shown in its region, and a download that failed changes nothing. -/
theorem core_showListing (client : Client) (result : Except HttpError (Option String)) :
    (client.showListing result).1.core = client.core ∨
      ∃ text, (client.showListing result).1.core =
        (client.page.setRegion Region.files text, client.manager, client.queue) := by
  unfold showListing
  split
  · next listing => exact .inr ⟨listing, rfl⟩
  · exact .inl rfl

theorem core_showRankings (client : Client) (result : Except HttpError (Option String)) :
    (client.showRankings result).1.core = client.core ∨
      ∃ text, (client.showRankings result).1.core =
        (client.page.setRegion Region.rankings text, client.manager, client.queue) := by
  unfold showRankings
  split
  · next fragment => exact .inr ⟨fragment, rfl⟩
  · exact .inl rfl

/-- What a download leaves is one of the effects of its answer. -/
theorem effect_of_shown {client : Client} {number : Nat} {answer : HttpAnswer} {name : String}
    {after : Page × Manager Unit × List Inbound}
    (hname : name = Region.files ∨ name = Region.rankings)
    (hafter : after = client.core ∨
      ∃ text, after = (client.page.setRegion name text, client.manager, client.queue)) :
    client.Effect (.answer number answer) after := by
  rcases hafter with rfl | ⟨text, rfl⟩
  · exact .kept _
  · exact .shown number answer text hname

theorem effect_takeAnswer (client : Client) (number : Nat) (answer : HttpAnswer) :
    client.Effect (.answer number answer) (client.takeAnswer number answer).1.core := by
  unfold takeAnswer
  split
  · exact .kept _
  · next purpose hfound =>
    cases purpose with
    | listing =>
        apply effect_of_shown (.inl rfl)
        exact core_showListing _ _
    | reloadedListing =>
        dsimp only
        rw [core_fetchRankings]
        apply effect_of_shown (.inl rfl)
        exact core_showListing _ _
    | rankings =>
        apply effect_of_shown (.inr rfl)
        exact core_showRankings _ _

/-- The client starts with a fresh page, with the sessions that were opened and with the messages
that have come in meanwhile. -/
theorem core_of_start {config : Config} {read : FileReader} {attempt : Channel → Attempt}
    {meanwhile : Task → List Incident} {client : Client} {outputs : List Output}
    (hstart : start config read attempt meanwhile = (.ok client, outputs)) :
    let opening := firstOpening config attempt meanwhile
    ∃ page, loadPage read config.files = .ok page ∧ opening.result = .ok () ∧
      client.core = (page, opening.manager, opening.delivered.map (·.2)) := by
  obtain ⟨page, hload, hopened, rfl⟩ := exists_opened_of_start hstart
  refine ⟨page, hload, hopened, ?_⟩
  rw [core_fetchListing]
  rfl

/-! ## Messages -/

theorem core_followUp (client : Client) (next : FollowUp) :
    (client.followUp next).1.core = client.core := by
  cases next with
  | none => rfl
  | reloaded => exact client.core_fetchListing .reloadedListing
  | refreshRankings => exact client.core_fetchRankings

theorem core_renderNotification (client : Client) (now : Int) (notification : Notification) :
    (client.renderNotification now notification).1.core =
      ((client.page.render now notification).1, client.manager, client.queue) :=
  core_followUp _ _

theorem effect_renderNext {client : Client} (hrunning : client.stage ≠ .ended) (now : Int) :
    client.Effect (.render now) (client.renderNext now).1.core := by
  unfold renderNext
  split
  · exact .kept _
  · next message rest hqueue =>
    dsimp only
    split
    · next notification hdecode =>
      rw [core_renderNotification]
      exact .rendered hrunning hqueue hdecode
    · exact .skipped hqueue

/-! ## Lines -/

theorem effect_handleCommand (client : Client) (read : FileReader) (now : Int)
    (lines : List String) (command : UserCommand) :
    client.Effect (.advance read now) ({ client with lines }.handleCommand command).1.core := by
  cases command with
  | quit => exact .ended read now
  | help => exact .kept _
  | page => exact .kept _
  | unknown text => exact .kept _
  | files =>
      simp only [handleCommand, core_fetchListing]
      exact .kept _
  | compile => exact .kept _
  | test names =>
      change client.Effect _ (selectTests client.page names, client.manager, client.queue)
      unfold selectTests
      split
      · exact .kept _
      · exact .selected read now names
  | submit => exact .kept _

theorem effect_prepareAction {client : Client} {action : Action}
    (hstage : client.stage = .refreshing action []) (read : FileReader) (now : Int) :
    client.Effect (.advance read now) (client.prepareAction action).1.core := by
  unfold prepareAction Submission.prepare
  split
  · exact .kept _
  · cases hdisabled : client.page.isDisabled action with
    | true => exact .kept _
    | false => exact .acted hstage hdisabled

theorem effect_refreshEditor (client : Client) (read : FileReader) (now : Int) (spec : FileSpec) :
    client.Effect (.advance read now)
      (refreshEditor read client.page spec, client.manager, client.queue) := by
  unfold refreshEditor
  split
  · exact .edited read now _ _
  · exact .kept _

theorem effect_advance (client : Client) (read : FileReader) (now : Int) :
    client.Effect (.advance read now) (client.advance read now).1.core := by
  unfold advance
  split
  · split
    · exact client.effect_handleCommand read now _ _
    · split
      · exact .kept _
      · exact .ended read now
  · exact .kept _
  · exact .kept _
  · exact client.effect_refreshEditor read now _
  · next hstage => exact effect_prepareAction hstage read now
  · next action request _ =>
    exact .sent read now action.destination (String.ofList request.text)

/-! ## All steps -/

/-- A step has one of the effects that are listed. -/
theorem step_effect (client : Client) (event : Event) :
    client.Effect event (client.step event).1.core := by
  unfold step
  split
  · exact .kept _
  · next hrunning =>
    cases event with
    | line text =>
        dsimp only
        unfold takeLine
        dsimp only
        split <;> exact .kept _
    | endOfInput => exact .kept _
    | advance read now => exact client.effect_advance read now
    | receive channel event => exact .received channel event
    | lose channel reason => exact .lost channel reason
    | render now => exact effect_renderNext hrunning now
    | answer number answer => exact client.effect_takeAnswer number answer
    | look channel =>
        dsimp only
        unfold look
        split <;> exact .kept _

/-- The effect of a step, with names for what it leaves. -/
theorem exists_effect (client : Client) (event : Event) :
    ∃ page manager queue, client.Effect event (page, manager, queue) ∧
      (client.step event).1.page = page ∧ (client.step event).1.manager = manager ∧
      (client.step event).1.queue = queue :=
  ⟨_, _, _, client.step_effect event, rfl, rfl, rfl⟩

end Client

end ClassroomClient
