/-
# Bodies that are not looked at

Of a message that came on the control or the feedback channel only its topic counts. Clients that
hold other bodies in such messages put out the same and show the same page, whatever happens to
them afterwards. So no text of such a message gets anywhere.
-/

import ClassroomClient.Proofs.Client.Change
import ClassroomClient.Proofs.Client.Queue
import ClassroomClient.Proofs.Page.Channel

namespace ClassroomClient

open Exchange

/-- A message without what nobody looks at: its body, unless it came on the submit channel. -/
def Inbound.veiled (message : Inbound) : Inbound :=
  if message.channel = .submit then message else { message with body := "" }

theorem Inbound.veiled_of_submit {message : Inbound} (hsubmit : message.channel = .submit) :
    message.veiled = message := if_pos hsubmit

theorem Inbound.veiled_of_ne_submit {message : Inbound} (hother : message.channel ≠ .submit) :
    message.veiled = { message with body := "" } := if_neg hother

/-- The veil leaves the channel and the topic, and on the submit channel the body. -/
theorem Inbound.eq_of_veiled {message other : Inbound} (hveiled : other.veiled = message.veiled) :
    other.channel = message.channel ∧ other.topic = message.topic ∧
      (message.channel = .submit → other = message) := by
  by_cases hsubmit : message.channel = .submit
  · rw [veiled_of_submit hsubmit] at hveiled
    by_cases hother : other.channel = .submit
    · rw [veiled_of_submit hother] at hveiled
      rw [hveiled]
      exact ⟨rfl, rfl, fun _ => rfl⟩
    · rw [veiled_of_ne_submit hother] at hveiled
      rw [← hveiled] at hsubmit
      exact absurd hsubmit hother
  · rw [veiled_of_ne_submit hsubmit] at hveiled
    by_cases hother : other.channel = .submit
    · rw [veiled_of_submit hother] at hveiled
      rw [hveiled] at hother
      exact absurd hother hsubmit
    · rw [veiled_of_ne_submit hother] at hveiled
      obtain ⟨hchannel, htopic, _⟩ := Inbound.mk.inj hveiled
      exact ⟨hchannel, htopic, fun h => absurd h hsubmit⟩

namespace Client

/-- The client with other messages that wait. -/
def withQueue (client : Client) (queue : List Inbound) : Client := { client with queue }

variable (client : Client) (queue : List Inbound)

@[simp] theorem stage_withQueue : (client.withQueue queue).stage = client.stage := rfl

@[simp] theorem config_withQueue : (client.withQueue queue).config = client.config := rfl

@[simp] theorem manager_withQueue : (client.withQueue queue).manager = client.manager := rfl

@[simp] theorem lines_withQueue : (client.withQueue queue).lines = client.lines := rfl

@[simp] theorem hasInput_withQueue : (client.withQueue queue).hasInput = client.hasInput := rfl

@[simp] theorem watched_withQueue : (client.withQueue queue).watched = client.watched := rfl

/-! ## Steps that do not look at the queue -/

theorem fetchRankings_withQueue :
    (client.withQueue queue).fetchRankings =
      (client.fetchRankings.1.withQueue queue, client.fetchRankings.2) := by
  unfold fetchRankings withQueue
  dsimp only
  split
  · rfl
  · split <;> rfl

theorem fetchListing_withQueue (purpose : Purpose) :
    (client.withQueue queue).fetchListing purpose =
      ((client.fetchListing purpose).1.withQueue queue, (client.fetchListing purpose).2) := by
  have hrankings := client.fetchRankings_withQueue queue
  unfold fetchListing
  rw [config_withQueue]
  split
  · split
    · exact hrankings
    · rfl
  · rfl

theorem showListing_withQueue (result : Except HttpError (Option String)) :
    (client.withQueue queue).showListing result =
      ((client.showListing result).1.withQueue queue, (client.showListing result).2) := by
  unfold showListing
  split <;> rfl

theorem showRankings_withQueue (result : Except HttpError (Option String)) :
    (client.withQueue queue).showRankings result =
      ((client.showRankings result).1.withQueue queue, (client.showRankings result).2) := by
  unfold showRankings
  split <;> rfl

theorem takeAnswer_withQueue (number : Nat) (answer : HttpAnswer) :
    (client.withQueue queue).takeAnswer number answer =
      ((client.takeAnswer number answer).1.withQueue queue,
        (client.takeAnswer number answer).2) := by
  have hlisting :=
    (client.answered number).showListing_withQueue queue (Download.files.read answer)
  have hrankings := (client.answered number).showRankings_withQueue queue
    ((rankingsDownload (client.config.rankingsPath.getD "")).read answer)
  unfold answered withQueue at hlisting hrankings
  unfold takeAnswer withQueue
  dsimp only
  split
  · rfl
  · next purpose _ =>
    cases purpose with
    | listing =>
        simp only [hlisting]
        rfl
    | reloadedListing =>
        simp only [hlisting]
        rw [← withQueue, fetchRankings_withQueue]
        rfl
    | rankings =>
        simp only [hrankings]
        rfl

theorem followUp_withQueue (next : FollowUp) :
    (client.withQueue queue).followUp next =
      ((client.followUp next).1.withQueue queue, (client.followUp next).2) := by
  cases next with
  | none => rfl
  | reloaded => exact client.fetchListing_withQueue queue .reloadedListing
  | refreshRankings => exact client.fetchRankings_withQueue queue

theorem renderNotification_withQueue (now : Int) (notification : Notification) :
    (client.withQueue queue).renderNotification now notification =
      ((client.renderNotification now notification).1.withQueue queue,
        (client.renderNotification now notification).2) := by
  have hnext := { client with page := (client.page.render now notification).1 }.followUp_withQueue
    queue (client.page.render now notification).2
  unfold withQueue at hnext
  unfold renderNotification withQueue
  simp only [hnext]
  rfl

theorem handleCommand_withQueue (command : UserCommand) :
    (client.withQueue queue).handleCommand command =
      ((client.handleCommand command).1.withQueue queue, (client.handleCommand command).2) := by
  cases command with
  | files => exact { client with stage := .listing }.fetchListing_withQueue queue .listing
  | _ => rfl

theorem prepareAction_withQueue (action : Action) :
    (client.withQueue queue).prepareAction action =
      ((client.prepareAction action).1.withQueue queue, (client.prepareAction action).2) := by
  unfold prepareAction withQueue
  dsimp only
  split
  · rfl
  · split <;> rfl

theorem advance_withQueue (read : FileReader) (now : Int) :
    (client.withQueue queue).advance read now =
      ((client.advance read now).1.withQueue queue, (client.advance read now).2) := by
  unfold advance
  rw [stage_withQueue]
  split
  · rw [lines_withQueue]
    split
    · next line rest _ =>
      exact { client with lines := rest }.handleCommand_withQueue queue (.ofLine line)
    · rw [hasInput_withQueue]
      split <;> rfl
  · rfl
  · rfl
  · rfl
  · exact client.prepareAction_withQueue queue _
  · rfl

/-- What neither takes from the queue nor adds to it goes the same way whatever waits there. -/
theorem step_withQueue {event : Event} (huntouched : ¬ TouchesQueue event) :
    (client.withQueue queue).step event =
      ((client.step event).1.withQueue queue, (client.step event).2) := by
  unfold step
  rw [stage_withQueue]
  split
  · rfl
  · cases event with
    | line text =>
        dsimp only
        unfold takeLine
        rw [hasInput_withQueue]
        dsimp only
        split <;> rfl
    | endOfInput => rfl
    | advance read now => exact client.advance_withQueue queue read now
    | receive channel incoming => exact absurd (.receive channel incoming) huntouched
    | lose channel reason => rfl
    | render now => exact absurd (.render now) huntouched
    | answer number answer => exact client.takeAnswer_withQueue queue number answer
    | look channel =>
        dsimp only
        unfold look
        rw [watched_withQueue,
          manager_withQueue]
        split <;> rfl

/-! ## Steps that do -/

/-- Renders a message, or passes it over. -/
def renderMessage (now : Int) (message : Inbound) : Client × List Output :=
  match Notification.decode message.topic message.body with
  | .ok notification => client.renderNotification now notification
  | .error _ => (client, [])

theorem renderNext_of_queue {message : Inbound} {rest : List Inbound}
    (hqueue : client.queue = message :: rest) (now : Int) :
    client.renderNext now = (client.withQueue rest).renderMessage now message := by
  rw [renderNext, hqueue]
  rfl

theorem renderMessage_withQueue (now : Int) (message : Inbound) :
    (client.withQueue queue).renderMessage now message =
      ((client.renderMessage now message).1.withQueue queue,
        (client.renderMessage now message).2) := by
  unfold renderMessage
  split
  · exact client.renderNotification_withQueue queue now _
  · rfl

/-- What is rendered of a message does not depend on what the veil hides. -/
theorem renderMessage_of_veiled {message other : Inbound}
    (hpublishes : message.channel.Publishes message.topic)
    (hveiled : other.veiled = message.veiled) (now : Int) :
    client.renderMessage now other = client.renderMessage now message := by
  obtain ⟨_, htopic, hsame⟩ := Inbound.eq_of_veiled hveiled
  by_cases hsubmit : message.channel = .submit
  · rw [hsame hsubmit]
  · unfold renderMessage
    rw [htopic]
    rcases Notification.decode_of_publishes hpublishes hsubmit with hstart | hstop | hrankings
    · rw [hstart, hstart]
    · obtain ⟨notice, hnotice⟩ := hstop message.body
      obtain ⟨_, hother⟩ := hstop other.body
      rw [hnotice, hother]
      rfl
    · rw [hrankings, hrankings]

theorem step_receive_of_running {client : Client} (hrunning : client.stage ≠ .ended)
    (channel : Channel) (incoming : SocketEvent) :
    client.step (.receive channel incoming) =
      ({ client with
          manager := (client.manager.receive channel incoming).1
          queue := client.queue ++ (client.delivered channel incoming).toList }, []) :=
  if_neg hrunning

theorem step_render_of_running {client : Client} (hrunning : client.stage ≠ .ended) (now : Int) :
    client.step (.render now) = client.renderNext now := if_neg hrunning

variable {client queue}

/-- Rendering puts out the same and leaves the same behind when other bodies wait. -/
theorem renderNext_of_veiled (hconfined : client.IsConfined)
    (hveiled : queue.map Inbound.veiled = client.queue.map Inbound.veiled) (now : Int) :
    ∃ later, (client.withQueue queue).renderNext now =
        ((client.renderNext now).1.withQueue later, (client.renderNext now).2) ∧
      later.map Inbound.veiled = (client.renderNext now).1.queue.map Inbound.veiled := by
  cases hqueue : client.queue with
  | nil =>
      rw [hqueue] at hveiled
      obtain rfl := List.map_eq_nil_iff.1 hveiled
      refine ⟨[], ?_, ?_⟩
      · rw [renderNext, renderNext, hqueue]
        rfl
      · rw [renderNext, hqueue]
        exact congrArg _ hqueue.symm
  | cons message rest =>
      rw [hqueue] at hveiled
      obtain ⟨other, others, rfl, hfirst, hrest⟩ := List.map_eq_cons_iff.1 hveiled
      have hpublishes := hconfined.waiting message (by rw [hqueue]; exact List.mem_cons_self)
      have hrendered := client.renderMessage_of_veiled hpublishes hfirst now
      refine ⟨others, ?_, ?_⟩
      · rw [(client.withQueue (other :: others)).renderNext_of_queue rfl,
          client.renderNext_of_queue hqueue]
        change (client.withQueue others).renderMessage now other = _
        rw [renderMessage_withQueue, renderMessage_withQueue, hrendered]
        rfl
      · rw [client.renderNext_of_queue hqueue, renderMessage_withQueue]
        exact hrest

/-- A step of a client that holds other bodies puts out the same and leads to a client that holds
other bodies. -/
theorem step_of_veiled (hconfined : client.IsConfined)
    (hveiled : queue.map Inbound.veiled = client.queue.map Inbound.veiled) (event : Event) :
    ∃ later, (client.withQueue queue).step event =
        ((client.step event).1.withQueue later, (client.step event).2) ∧
      later.map Inbound.veiled = (client.step event).1.queue.map Inbound.veiled := by
  by_cases hended : client.stage = .ended
  · rw [step_of_ended hended, step_of_ended (client.stage_withQueue queue |>.trans hended)]
    exact ⟨queue, rfl, hveiled⟩
  have hrunning : (client.withQueue queue).stage ≠ .ended := hended
  by_cases htouches : TouchesQueue event
  · cases htouches with
    | render now =>
        rw [step_render_of_running hended, step_render_of_running hrunning]
        exact renderNext_of_veiled hconfined hveiled now
    | receive channel incoming =>
        rw [step_receive_of_running hended, step_receive_of_running hrunning]
        refine ⟨queue ++ (client.delivered channel incoming).toList, rfl, ?_⟩
        dsimp only
        rw [List.map_append, List.map_append, hveiled]
  · refine ⟨queue, client.step_withQueue queue htouches, ?_⟩
    rw [client.queue_step_of_not_touches htouches]
    exact hveiled

/-- Whatever happens to them, clients that hold other bodies put out the same and show the same
page. -/
theorem run_of_veiled (hconfined : client.IsConfined)
    (hveiled : queue.map Inbound.veiled = client.queue.map Inbound.veiled)
    (events : List Event) :
    ∃ later, (client.withQueue queue).run events =
      ((client.run events).1.withQueue later, (client.run events).2) := by
  induction events generalizing client queue with
  | nil => exact ⟨queue, rfl⟩
  | cons event rest ih =>
      obtain ⟨later, hstep, hlater⟩ := step_of_veiled hconfined hveiled event
      obtain ⟨last, hrest⟩ := ih (hconfined.step event) hlater
      refine ⟨last, ?_⟩
      rw [run_cons, run_cons, hstep]
      dsimp only
      rw [hrest]

end Client

end ClassroomClient
