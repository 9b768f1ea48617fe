/-
# The loss of a channel is told once

For each channel somebody looks, whenever it has its turn, whether the session is still connected.
Two things have to come together for a notice. The client has to notice the loss: its session counts
as disconnected, since the server has ended the connection or a frame could not be written, while
the channels were opened or later. And somebody has to look after that, before the client ends its
run and nobody looks any more. Then the notice is printed once, however many looks follow and
whatever else fails. A balance carries the count: what has been told and what is still watched add
up to one.
-/

import ClassroomClient.Proofs.Client.Printing
import ClassroomClient.Proofs.Session.Ending
import ClassroomClient.Proofs.Session.Tasks

namespace ClassroomClient

open Exchange Stomp

namespace Client

variable {client : Client} {channel : Channel} {event : Event}

/-! ## Sessions of a client that runs on -/

theorem manager_handleCommand (client : Client) (command : UserCommand) :
    (client.handleCommand command).1.stage = .ended ∨
      (client.handleCommand command).1.manager = client.manager := by
  cases command with
  | quit => exact .inl rfl
  | files =>
      right
      exact congrArg (·.2.1) (core_fetchListing { client with stage := .listing } .listing)
  | _ => exact .inr rfl

theorem manager_prepareAction (client : Client) (action : Action) :
    (client.prepareAction action).1.manager = client.manager := by
  unfold prepareAction
  split
  · rfl
  · split <;> rfl

/-- Handling lines leaves the sessions alone, unless it sends a request or ends the client. -/
theorem manager_advance (hother : ∀ action request, client.stage ≠ .sending action request)
    (read : FileReader) (now : Int) :
    (client.advance read now).1.stage = .ended ∨
      (client.advance read now).1.manager = client.manager := by
  unfold advance
  split
  · split
    · next line rest _ => exact manager_handleCommand { client with lines := rest } (.ofLine line)
    · split
      · exact .inr rfl
      · exact .inl rfl
  · exact .inr rfl
  · exact .inr rfl
  · exact .inr rfl
  · exact .inr (client.manager_prepareAction _)
  · next hstage => exact absurd hstage (hother _ _)

/-- What an event does with the sessions of a client that runs on. -/
def operations (client : Client) : Event → List (Manager.Operation Unit)
  | .receive channel incoming => [.receive channel incoming]
  | .lose channel reason => [.lose channel reason]
  | .advance _ _ =>
    match client.stage with
    | .sending action request =>
      [.send .control action.destination (String.ofList request.text)]
    | _ => []
  | _ => []

/-- What is done with the sessions in a run. -/
def operated (client : Client) (events : List Event) : List (Manager.Operation Unit) :=
  (client.moments events).flatMap fun moment => moment.before.operations moment.event

/-- While the client runs on, its sessions become what is done with them. -/
theorem manager_step (hrunning : (client.step event).1.stage ≠ .ended) :
    (client.step event).1.manager =
      client.manager.after client.config (client.operations event) := by
  have hbefore := running_of_step hrunning
  cases event with
  | receive other incoming =>
      rw [step, if_neg hbefore]
      rfl
  | lose other reason =>
      rw [step, if_neg hbefore]
      rfl
  | advance read now =>
      rw [step, if_neg hbefore] at hrunning ⊢
      cases hstage : client.stage with
      | sending action request =>
          simp only [advance, hstage, operations]
          rfl
      | _ =>
          have hother (action : Action) (request : Request) :
              client.stage ≠ .sending action request := by simp [hstage]
          rw [(manager_advance hother read now).resolve_left hrunning]
          simp only [operations, hstage]
          rfl
  | _ =>
      obtain ⟨_, _, _, heffect, _, hmanager, _⟩ := client.exists_effect _
      rw [hmanager]
      cases heffect <;> rfl

theorem manager_run {events : List Event} (hrunning : (client.run events).1.stage ≠ .ended) :
    (client.run events).1.manager =
      client.manager.after client.config (client.operated events) := by
  induction events generalizing client with
  | nil => rfl
  | cons event rest ih =>
      have hfirst := running_of_run hrunning
      rw [run_cons] at hrunning ⊢
      rw [ih hrunning, manager_step hfirst, config_step hfirst, ← Manager.after_append]
      rfl

/-- The sessions of a client are those of a run that begins with the opening of the channels. -/
theorem manager_of_start {config : Config} {read : FileReader} {attempt : Channel → Attempt}
    {meanwhile : Task → List Incident} {outputs : List Output}
    (hstart : start config read attempt meanwhile = (.ok client, outputs)) :
    client.manager =
      Manager.reached config (Manager.empty.performed config () attempt meanwhile) := by
  obtain ⟨page, _, _, hcore⟩ := core_of_start hstart
  have hmanager : client.manager = (firstOpening config attempt meanwhile).manager :=
    congrArg (·.2.1) hcore
  rw [hmanager, firstOpening, Manager.opening_eq]
  rfl

theorem isSome_use?_of_mem_operated {events : List Event} {operation : Manager.Operation Unit}
    (hmem : operation ∈ client.operated events) : operation.use?.isSome := by
  obtain ⟨moment, -, hoperation⟩ := List.mem_flatMap.1 hmem
  unfold operations at hoperation
  split at hoperation
  · cases List.mem_singleton.1 hoperation
    rfl
  · cases List.mem_singleton.1 hoperation
    rfl
  · split at hoperation
    · cases List.mem_singleton.1 hoperation
      rfl
    · cases hoperation
  · cases hoperation

/-! ## Channels that are watched -/

@[simp] theorem watched_fetchRankings (client : Client) :
    client.fetchRankings.1.watched = client.watched := by
  unfold fetchRankings
  split
  · rfl
  · split <;> rfl

@[simp] theorem watched_fetchListing (client : Client) (purpose : Purpose) :
    (client.fetchListing purpose).1.watched = client.watched := by
  unfold fetchListing
  split
  · split
    · exact client.watched_fetchRankings
    · rfl
  · rfl

@[simp] theorem watched_showListing (client : Client) (result : Except HttpError (Option String)) :
    (client.showListing result).1.watched = client.watched := by
  unfold showListing
  split <;> rfl

@[simp] theorem watched_showRankings (client : Client) (result : Except HttpError (Option String)) :
    (client.showRankings result).1.watched = client.watched := by
  unfold showRankings
  split <;> rfl

theorem watched_takeAnswer (client : Client) (number : Nat) (answer : HttpAnswer) :
    (client.takeAnswer number answer).1.watched = client.watched := by
  unfold takeAnswer
  split
  · rfl
  · next purpose _ => cases purpose <;> simp [endListing]

theorem watched_renderNext (client : Client) (now : Int) :
    (client.renderNext now).1.watched = client.watched := by
  unfold renderNext
  split
  · rfl
  · dsimp only
    split
    · next notification _ =>
      unfold renderNotification
      dsimp only
      cases (client.page.render now notification).2 <;> simp [followUp]
    · rfl

theorem watched_handleCommand (client : Client) (command : UserCommand) :
    (client.handleCommand command).1.watched = client.watched ∨
      (client.handleCommand command).1.watched = [] ∧
        (client.handleCommand command).1.stage = .ended := by
  cases command with
  | quit => exact .inr ⟨rfl, rfl⟩
  | files => exact .inl (watched_fetchListing { client with stage := .listing } .listing)
  | _ => exact .inl rfl

theorem watched_prepareAction (client : Client) (action : Action) :
    (client.prepareAction action).1.watched = client.watched := by
  unfold prepareAction
  split
  · rfl
  · split <;> rfl

theorem watched_advance (client : Client) (read : FileReader) (now : Int) :
    (client.advance read now).1.watched = client.watched ∨
      (client.advance read now).1.watched = [] ∧ (client.advance read now).1.stage = .ended := by
  unfold advance
  split
  · split
    · next line rest _ => exact watched_handleCommand { client with lines := rest } (.ofLine line)
    · split
      · exact .inl rfl
      · exact .inr ⟨rfl, rfl⟩
  · exact .inl rfl
  · exact .inl rfl
  · exact .inl rfl
  · exact .inl (client.watched_prepareAction _)
  · exact .inl rfl

/-- Only looking for a loss and the end of the client take a channel off the watch. -/
theorem watched_step_of_other (client : Client) (hother : ∀ channel, event ≠ .look channel) :
    (client.step event).1.watched = client.watched ∨
      (client.step event).1.watched = [] ∧ (client.step event).1.stage = .ended := by
  unfold step
  split
  · exact .inl rfl
  · cases event with
    | look channel => exact absurd rfl (hother channel)
    | advance read now => exact client.watched_advance read now
    | render now => exact .inl (client.watched_renderNext now)
    | answer number answer => exact .inl (client.watched_takeAnswer number answer)
    | line text =>
        left
        dsimp only
        unfold takeLine
        dsimp only
        split <;> rfl
    | _ => exact .inl rfl

theorem watched_of_start {config : Config} {read : FileReader} {attempt : Channel → Attempt}
    {meanwhile : Task → List Incident} {outputs : List Output}
    (hstart : start config read attempt meanwhile = (.ok client, outputs)) :
    client.watched = client.manager.channels := by
  obtain ⟨page, _, _, rfl⟩ := exists_opened_of_start hstart
  have hcore := (opened config page (firstOpening config attempt meanwhile)).core_fetchListing
    .listing
  have hmanager := congrArg (·.2.1) hcore
  rw [watched_fetchListing]
  exact (congrArg Manager.channels hmanager).symm

/-! ## The balance of what has been told -/

/-- The notice of a loss among outputs. -/
def told (channel : Channel) (outputs : List Output) : Nat :=
  outputs.count (.print (lossNotice channel))

/-- What is left to tell of a channel. -/
def untold (client : Client) (channel : Channel) : Nat :=
  if channel ∈ client.watched then 1 else 0

theorem told_append (channel : Channel) (first second : List Output) :
    told channel (first ++ second) = told channel first + told channel second :=
  List.count_append

/-- Nothing but looking for a loss tells of one. -/
theorem told_step_of_other (hsound : client.IsSound) (hother : event ≠ .look channel) :
    told channel (client.step event).2 = 0 := by
  apply List.count_eq_zero.2
  intro hmem
  rcases eq_prompt_or_said hsound hmem with hprompt | hsaid
  · have hnotice : Says (.look channel) (.print (lossNotice channel)) := .lost rfl
    exact hnotice.ne_prompt client.config.team hprompt
  · exact hother hsaid.event_eq

/-- A look tells of a loss once, and then the channel is not watched any more. -/
theorem look_cases (client : Client) (channel : Channel) :
    (channel ∈ client.watched ∧ client.manager.isConnected channel = false ∧
        (client.look channel).2 = [.print (lossNotice channel)] ∧
        (client.look channel).1 =
          { client with watched := client.watched.filter (· != channel) }) ∨
      (channel ∈ client.watched → client.manager.isConnected channel = true) ∧
        client.look channel = (client, []) := by
  unfold look
  by_cases hlost : (client.watched.contains channel && !client.manager.isConnected channel) = true
  · rw [if_pos hlost]
    have hboth : channel ∈ client.watched ∧ client.manager.isConnected channel = false := by
      simpa using hlost
    exact .inl ⟨hboth.1, hboth.2, rfl, rfl⟩
  · rw [if_neg hlost]
    refine .inr ⟨?_, rfl⟩
    simpa using hlost

theorem step_look (hrunning : client.stage ≠ .ended) (channel : Channel) :
    client.step (.look channel) = client.look channel := by
  rw [step, if_neg hrunning]

/-- Nothing but looking for the loss of a channel and the end of the client leaves less to tell of
it. -/
theorem untold_step_of_other (hother : event ≠ .look channel) :
    (client.step event).1.untold channel = client.untold channel ∨
      (client.step event).1.untold channel = 0 ∧ (client.step event).1.stage = .ended := by
  by_cases hlook : ∃ other, event = .look other
  · obtain ⟨other, rfl⟩ := hlook
    left
    by_cases hended : client.stage = .ended
    · rw [step_of_ended hended]
    · rw [step_look hended]
      rcases client.look_cases other with ⟨-, -, -, hafter⟩ | ⟨-, hsame⟩
      · have hne : channel ≠ other := by
          rintro rfl
          exact hother rfl
        rw [hafter]
        simp [untold, hne]
      · rw [hsame]
  · rcases client.watched_step_of_other fun other h => hlook ⟨other, h⟩ with hsame | ⟨hnone, hended⟩
    · left
      rw [untold, untold, hsame]
    · right
      rw [untold, hnone]
      exact ⟨rfl, hended⟩

/-- Looking for the loss of a channel tells what was left to tell, if the channel is lost. -/
theorem told_look (hrunning : client.stage ≠ .ended) (channel : Channel) :
    told channel (client.step (.look channel)).2 +
        (client.step (.look channel)).1.untold channel = client.untold channel ∧
      (client.manager.isConnected channel = false →
        (client.step (.look channel)).1.untold channel = 0) := by
  rw [step_look hrunning]
  rcases client.look_cases channel with ⟨hwatched, -, hprinted, hafter⟩ | ⟨hconnected, hsame⟩
  · rw [hprinted, hafter]
    simp [untold, told, hwatched]
  · rw [hsame]
    refine ⟨Nat.zero_add _, fun hlost => if_neg fun hwatched => ?_⟩
    rw [hconnected hwatched] at hlost
    cases hlost

/-- What has been told and what is left to tell add up to the same, and the end of the client only
leaves less to tell. -/
theorem told_step (hsound : client.IsSound) (channel : Channel) (event : Event) :
    told channel (client.step event).2 + (client.step event).1.untold channel ≤
        client.untold channel ∧
      ((client.step event).1.stage ≠ .ended →
        told channel (client.step event).2 + (client.step event).1.untold channel =
          client.untold channel) := by
  by_cases hended : client.stage = .ended
  · rw [step_of_ended hended]
    exact ⟨Nat.le_of_eq (Nat.zero_add _), fun _ => Nat.zero_add _⟩
  by_cases hlook : event = .look channel
  · subst hlook
    have hbalance := (told_look hended channel).1
    exact ⟨Nat.le_of_eq hbalance, fun _ => hbalance⟩
  · rw [told_step_of_other hsound hlook, Nat.zero_add]
    rcases client.untold_step_of_other hlook with hsame | ⟨hnone, hstops⟩
    · exact ⟨Nat.le_of_eq hsame, fun _ => hsame⟩
    · rw [hnone]
      exact ⟨Nat.zero_le _, fun hrunning => absurd hstops hrunning⟩

theorem told_run (hsound : client.IsSound) (channel : Channel) (events : List Event) :
    told channel (client.run events).2 + (client.run events).1.untold channel ≤
        client.untold channel ∧
      ((client.run events).1.stage ≠ .ended →
        told channel (client.run events).2 + (client.run events).1.untold channel =
          client.untold channel) := by
  induction events generalizing client with
  | nil => exact ⟨Nat.le_of_eq (Nat.zero_add _), fun _ => Nat.zero_add _⟩
  | cons event rest ih =>
      obtain ⟨hfirst, hfirstEq⟩ := told_step hsound channel event
      obtain ⟨hlater, hlaterEq⟩ := ih (hsound.step event)
      rw [run_cons, told_append]
      dsimp only
      refine ⟨by omega, fun hrunning => ?_⟩
      have hlast := hlaterEq hrunning
      have hstep := hfirstEq (running_of_run hrunning)
      omega

/-! ## Reports -/

/-- A client that runs on has noticed the loss of a channel: with what was done with its sessions
from the opening of the channels on, the connection of the channel has been broken. -/
structure NoticesLoss (client : Client) (begun : List (Manager.Operation Unit)) (channel : Channel)
    (events : List Event) : Prop where
  running : (client.run events).1.stage ≠ .ended
  lost : Manager.Lost client.config channel (begun ++ client.operated events)

/-- How a run tells of the loss of a channel, from the start of the client on. -/
structure ReportsLoss (client : Client) (begun : List (Manager.Operation Unit)) (channel : Channel)
    (events : List Event) (outputs : List Output) : Prop where
  text : lossNotice channel =
    "\n! Lost the '" ++ channel.name ++ "' channel, restart the client to reconnect\n"
  /-- The loss is noticed when the session does not count as connected any more. -/
  noticed : ∀ earlier later, events = earlier ++ later → (client.run earlier).1.stage ≠ .ended →
    ((client.run earlier).1.manager.isConnected channel = false ↔
      client.NoticesLoss begun channel earlier)
  atMostOnce : outputs.count (.print (lossNotice channel)) ≤ 1
  /-- It is told when somebody looks after it has been noticed, and not otherwise. -/
  told : .print (lossNotice channel) ∈ outputs ↔ ∃ earlier later,
    events = earlier ++ .look channel :: later ∧ client.NoticesLoss begun channel earlier
  /-- Nothing but such a look tells of it: no action that fails, no loss of another channel, no end
  of the client. -/
  looked : ∀ earlier event later, events = earlier ++ event :: later →
    .print (lossNotice channel) ∈ ((client.run earlier).1.step event).2 →
    event = .look channel ∧ client.NoticesLoss begun channel earlier

/-- What tells of a loss at a step is a look at a channel that is lost. -/
theorem lost_of_told (hsound : client.IsSound)
    (hmem : .print (lossNotice channel) ∈ (client.step event).2) :
    event = .look channel ∧ client.stage ≠ .ended ∧
      client.manager.isConnected channel = false := by
  have hlook : event = .look channel := by
    by_contra hother
    have htold : 0 < told channel (client.step event).2 := List.count_pos_iff.2 hmem
    exact Nat.ne_of_gt htold (told_step_of_other hsound hother)
  have hrunning : client.stage ≠ .ended := by
    intro hended
    rw [step_of_ended hended] at hmem
    cases hmem
  subst hlook
  rw [step_look hrunning] at hmem
  rcases client.look_cases channel with ⟨-, hlost, -, -⟩ | ⟨-, hsame⟩
  · exact ⟨rfl, hrunning, hlost⟩
  · rw [hsame] at hmem
    cases hmem

theorem told_of_start {config : Config} {read : FileReader} {attempt : Channel → Attempt}
    {meanwhile : Task → List Incident} {outputs : List Output}
    (hstart : start config read attempt meanwhile = (.ok client, outputs))
    (channel : Channel) : .print (lossNotice channel) ∉ outputs := by
  intro hmem
  have hlead := (isLine_greeting config.team).lead_eq (by decide)
  rw [← eq_greeting_of_start hstart hmem] at hlead
  revert hlead
  cases channel <;> decide

/-- A session of a client that runs on does not count as connected any more when the loss has been
noticed. -/
theorem noticesLoss_iff {config : Config} {read : FileReader} {attempt : Channel → Attempt}
    {meanwhile : Task → List Incident} {outputs : List Output}
    (hstart : start config read attempt meanwhile = (.ok client, outputs))
    (hsession : (client.manager.session? channel).isSome) {events : List Event}
    (hrunning : (client.run events).1.stage ≠ .ended) :
    (client.run events).1.manager.isConnected channel = false ↔
      client.NoticesLoss (Manager.empty.performed config () attempt meanwhile) channel events := by
  have hconfig := config_of_start hstart
  have hsome : ((client.run events).1.manager.session? channel).isSome := by
    rw [manager_run hrunning,
      client.manager.isSome_after_uses _ _ fun _ => isSome_use?_of_mem_operated]
    exact hsession
  obtain ⟨session, hfound⟩ := Option.isSome_iff_exists.1 hsome
  have hreached := hfound
  rw [manager_run hrunning, manager_of_start hstart, hconfig, Manager.reached,
    ← Manager.after_append] at hreached
  rw [Manager.isConnected_of_session? hfound, ← Bool.not_eq_true,
    Manager.isConnected_reached hreached, not_not, ← hconfig]
  exact ⟨fun hlost => ⟨hrunning, hlost⟩, fun hnotices => hnotices.lost⟩

/-- From its start on a client tells once of every loss that it notices and that somebody looks at
before the client ends. -/
theorem losses_of_start {config : Config} {read : FileReader} {attempt : Channel → Attempt}
    {meanwhile : Task → List Incident} {outputs : List Output}
    (hstart : start config read attempt meanwhile = (.ok client, outputs))
    (hsession : (client.manager.session? channel).isSome) (events : List Event) :
    client.ReportsLoss (Manager.empty.performed config () attempt meanwhile) channel events
      (outputs ++ (client.run events).2) := by
  have hsound := (Reachable.start hstart).isSound
  have hsilent := told_of_start hstart channel
  have hstarted : told channel outputs = 0 := List.count_eq_zero.2 hsilent
  have hlooked (earlier : List Event) (event : Event)
      (hprinted : .print (lossNotice channel) ∈ ((client.run earlier).1.step event).2) :
      event = .look channel ∧ client.NoticesLoss
        (Manager.empty.performed config () attempt meanwhile) channel earlier := by
    obtain ⟨hlook, hrunning, hlost⟩ :=
      lost_of_told ((Reachable.start hstart).run earlier).isSound hprinted
    exact ⟨hlook, (noticesLoss_iff hstart hsession hrunning).1 hlost⟩
  constructor
  · cases channel <;> decide
  · intro earlier later _ hrunning
    exact noticesLoss_iff hstart hsession hrunning
  · have hbalance := (told_run hsound channel events).1
    have hwatched : client.untold channel ≤ 1 := by
      unfold untold
      split <;> omega
    change told channel (outputs ++ _) ≤ 1
    rw [told_append, hstarted]
    omega
  · constructor
    · intro hmem
      have hrun := (List.mem_append.1 hmem).resolve_left hsilent
      rw [← flatMap_outputs_moments] at hrun
      obtain ⟨moment, hmoment, hprinted⟩ := List.mem_flatMap.1 hrun
      obtain ⟨earlier, later, hevents, hbefore⟩ := exists_of_mem_moments hmoment
      rw [Moment.outputs, hbefore] at hprinted
      obtain ⟨hlook, hnotices⟩ := hlooked earlier _ hprinted
      rw [hlook] at hevents
      exact ⟨earlier, later, hevents, hnotices⟩
    · rintro ⟨earlier, later, rfl, hnotices⟩
      have hrunning := hnotices.running
      have hwatched : client.untold channel = 1 := by
        apply if_pos
        rw [watched_of_start hstart]
        exact List.mem_filter.2 ⟨by cases channel <;> decide, hsession⟩
      -- What is told up to the look and at it is all that was left to tell.
      have hearlier := (told_run hsound channel earlier).2 hrunning
      obtain ⟨hlook, hnone⟩ := told_look hrunning channel
      rw [hnone ((noticesLoss_iff hstart hsession hrunning).2 hnotices)] at hlook
      apply List.mem_append_right
      rw [← List.count_pos_iff]
      change 0 < told channel _
      rw [run_append, run_cons, told_append, told_append]
      omega
  · intro earlier event later _ hprinted
    exact hlooked earlier event hprinted

/-- The feedback channel is lost before it is subscribed, so that the loss is noticed before anybody
can look, and two actions fail on a control channel that is not reached any more. Each loss is told
once. The submit channel is torn down when the client ends, which is not told. -/
theorem losses_of_start_together :
    let config : Config := { Session.localConfig with rankingsPath := some "/rankings" }
    let meanwhile : Task → List Incident
      | .subscribe .feedback _ => [.lose .feedback "reset"]
      | _ => []
    let next : Event := .advance (fun _ => .ok "") 0
    let compile : List Event := [.line "compile", next, next, next]
    let events : List Event := [.answer 0 (.failed "refused"), .lose .control "reset"] ++
      compile ++ compile ++ [.look .control, .look .feedback, .look .control, .look .submit,
        .line "quit", next, .look .submit]
    ∃ client outputs,
      start config (fun _ => .ok "") (fun _ => Manager.grantedAttempt) meanwhile =
          (.ok client, outputs) ∧
        (∀ channel, (client.manager.session? channel).isSome ∧
          client.ReportsLoss (Manager.empty.performed config () (fun _ => Manager.grantedAttempt)
            meanwhile) channel events (outputs ++ (client.run events).2)) ∧
        Channel.all.map (fun channel =>
          (client.run events).2.count (.print (lossNotice channel))) = [0, 1, 1] := by
  intro config meanwhile next compile events
  have hseen : ∃ client ∈ (start config (fun _ => .ok "") (fun _ => Manager.grantedAttempt)
      meanwhile).1.toOption,
      (∀ channel ∈ Channel.all, (client.manager.session? channel).isSome) ∧
        Channel.all.map (fun channel =>
          (client.run events).2.count (.print (lossNotice channel))) = [0, 1, 1] := by
    decide +kernel
  obtain ⟨client, outputs, hstart, hopen, hcounts⟩ := exists_of_start hseen
  refine ⟨client, outputs, hstart, fun channel => ?_, hcounts⟩
  have hsession := hopen channel (by cases channel <;> decide)
  exact ⟨hsession, losses_of_start hstart hsession events⟩

/-- The server closes the control channel, which the client notices before it handles the line that
quits. Nobody looks in between, and the loss is never told. On the other hand the text of the notice
is printed without a loss when somebody broadcasts it. -/
theorem loss_untold_before_quit :
    let notice := "! Lost the 'control' channel, restart the client to reconnect"
    let closed : List Event := [.line "quit", .receive .control .close]
    let quits : List Event :=
      [.answer 0 (.failed "refused"), .advance (fun _ => .ok "") 0, .look .control]
    let message : Frame := { Frame.bare .message [("destination", "/topic/messages")] with
      body := "\x7b\"text\":\"" ++ notice ++ "\"\x7d" }
    let pushed : List Event := [.receive .submit (.text message.encode), .render 0]
    ∃ client outputs,
      start Session.localConfig (fun _ => .ok "") (fun _ => Manager.grantedAttempt) =
          (.ok client, outputs) ∧
        ((client.run closed).1.stage ≠ .ended ∧
          (client.run closed).1.manager.isConnected .control = false ∧
          (outputs ++ (client.run (closed ++ quits)).2).count
            (.print ("\n" ++ notice ++ "\n")) = 0) ∧
        (client.run pushed).1.manager.isConnected .control = true ∧
          .print ("\n" ++ Display.thinRule ++ "\n[ ] response\n: \n" ++ notice ++ "\n\n" ++
            Display.thinRule ++ "\n") ∈ (client.run pushed).2 := by
  intro notice closed quits message pushed
  have hseen : ∃ client ∈ (start Session.localConfig (fun _ => .ok "")
      fun _ => Manager.grantedAttempt).1.toOption,
      ((client.run closed).1.stage ≠ .ended ∧
        (client.run closed).1.manager.isConnected .control = false ∧
        told .control (client.run (closed ++ quits)).2 = 0) ∧
      (client.run pushed).1.manager.isConnected .control = true ∧
        .print ("\n" ++ Display.thinRule ++ "\n[ ] response\n: \n" ++ notice ++ "\n\n" ++
          Display.thinRule ++ "\n") ∈ (client.run pushed).2 := by
    decide +kernel
  obtain ⟨client, outputs, hstart, ⟨hrunning, hclosed, huntold⟩, hspelled⟩ := exists_of_start hseen
  refine ⟨client, outputs, hstart, ⟨hrunning, hclosed, ?_⟩, hspelled⟩
  have hstarted : told .control outputs = 0 := List.count_eq_zero.2 (told_of_start hstart .control)
  have hnotice : "\n" ++ notice ++ "\n" = lossNotice .control := by decide
  rw [hnotice]
  change told .control (outputs ++ _) = 0
  rw [told_append, hstarted, huntold]

end Client

end ClassroomClient
