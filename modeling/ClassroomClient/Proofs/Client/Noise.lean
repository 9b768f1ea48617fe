/-
# Runs without the noise

A run goes on as if texts that say nothing to the client had never been sent. With them goes nothing
but the turns in which rendering passes them over; everything else happens as before, in the same
states.

A client that holds noise in its queue is compared with the one whose queue has been silenced. The
two stay together at every event that is heard, and at an event that is not the first one alone
moves, to a state that is silenced to the same. What the silenced client starts with is what the
start comes to when the noise is left out that comes in while the channels are opened.
-/

import ClassroomClient.Proofs.Client.Bodies
import ClassroomClient.Proofs.Session.Noise

namespace ClassroomClient

open Exchange Stomp

namespace Client

/-- The client without the messages in its queue that mean nothing. -/
def silenced (client : Client) : Client :=
  client.withQueue (client.queue.filter Inbound.isMeaningful)

/-- The event is noise: a text that says nothing to the session of its channel, or a turn in which
rendering passes over a message that means nothing. -/
def isNoise (client : Client) : Event → Bool
  | .receive channel (.text text) =>
    (client.manager.session? channel).all fun session => session.subscriptions.isNoise text
  | .render _ => client.queue.head?.any fun message => !message.isMeaningful
  | _ => false

/-- The moment is one of noise. -/
def Moment.isNoise (moment : Moment) : Bool := moment.before.isNoise moment.event

/-- The moments of a run that are not noise. -/
def heard (client : Client) (events : List Event) : List Moment :=
  (client.moments events).filter fun moment => !moment.isNoise

/-- The moment in the life of the silenced client. -/
def Moment.silenced (moment : Moment) : Moment := ⟨moment.before.silenced, moment.event⟩

variable {client : Client}

/-! ## Steps -/

/-- What a channel delivers has a meaning unless it is noise. -/
theorem isMeaningful_of_delivered {channel : Channel} {incoming : SocketEvent} {message : Inbound}
    (hdelivered : message ∈ client.delivered channel incoming) :
    message.isMeaningful = !client.isNoise (.receive channel incoming) := by
  obtain ⟨delivery, hreceived, rfl⟩ := Option.map_eq_some_iff.1 hdelivered
  rw [Manager.isMeaningful_of_receive hreceived]
  cases incoming <;> rfl

/-- Noise puts nothing out and moves the client to one that is silenced to the same. -/
theorem step_of_isNoise {event : Event} (hnoise : client.isNoise event = true) :
    (client.step event).1.silenced = client.silenced ∧ (client.step event).2 = [] := by
  by_cases hended : client.stage = .ended
  · rw [step_of_ended hended]
    exact ⟨rfl, rfl⟩
  cases event with
  | receive channel incoming =>
      cases incoming with
      | text text =>
          obtain ⟨admitted, hstep, hdelivered⟩ := client.step_text channel text
          rw [hstep]
          refine ⟨?_, rfl⟩
          have hnone : admitted.toList.filter Inbound.isMeaningful = [] := by
            rw [List.filter_eq_nil_iff]
            intro message hmem
            rw [isMeaningful_of_delivered (hdelivered message (Option.mem_toList.1 hmem)), hnoise]
            simp
          simp only [silenced, withQueue, List.filter_append, hnone, List.append_nil]
      | _ => cases hnoise
  | render now =>
      rw [step_render_of_running hended]
      cases hqueue : client.queue with
      | nil => simp [isNoise, hqueue] at hnoise
      | cons message rest =>
          have hmeaningless : message.isMeaningful = false := by
            simpa [isNoise, hqueue] using hnoise
          have hpassed : client.renderNext now = (client.withQueue rest, []) := by
            rw [client.renderNext_of_queue hqueue, renderMessage]
            split
            · next hdecode => simp [Inbound.isMeaningful, hdecode, Except.isOk, Except.toBool]
                at hmeaningless
            · rfl
          rw [hpassed]
          refine ⟨?_, rfl⟩
          simp [silenced, withQueue, hqueue, hmeaningless]
  | _ => cases hnoise

/-- Rendering a message that means something does not depend on the noise behind it. -/
theorem renderNext_silenced (now : Int) (hheard : client.isNoise (.render now) = false) :
    client.silenced.renderNext now =
      ((client.renderNext now).1.silenced, (client.renderNext now).2) := by
  cases hqueue : client.queue with
  | nil =>
      have hsilenced : client.silenced.queue = [] := by
        simp [silenced, withQueue, hqueue]
      simp [renderNext, hqueue, hsilenced]
  | cons message rest =>
      have hmeaningful : message.isMeaningful = true := by
        simpa [isNoise, hqueue] using hheard
      have hsilenced : client.silenced.queue =
          message :: rest.filter Inbound.isMeaningful := by
        simp [silenced, withQueue, hqueue, hmeaningful]
      rw [client.silenced.renderNext_of_queue hsilenced, client.renderNext_of_queue hqueue,
        renderMessage_withQueue, silenced, renderMessage_withQueue, renderMessage_withQueue]
      rfl

/-- What is not noise happens to the silenced client in the same way. -/
theorem step_silenced {event : Event} (hheard : client.isNoise event = false) :
    client.silenced.step event = ((client.step event).1.silenced, (client.step event).2) := by
  by_cases hended : client.stage = .ended
  · rw [step_of_ended hended, step_of_ended (show client.silenced.stage = .ended from hended)]
  have hrunning : client.silenced.stage ≠ .ended := hended
  by_cases htouches : TouchesQueue event
  · cases htouches with
    | render now =>
        rw [step_render_of_running hended, step_render_of_running hrunning]
        exact renderNext_silenced now hheard
    | receive channel incoming =>
        have hkept : (client.delivered channel incoming).toList.filter Inbound.isMeaningful =
            (client.delivered channel incoming).toList := by
          rw [List.filter_eq_self]
          intro message hmem
          rw [isMeaningful_of_delivered (Option.mem_toList.1 hmem), hheard]
          rfl
        rw [step_receive_of_running hended, step_receive_of_running hrunning]
        simp only [silenced, withQueue, List.filter_append, hkept]
        rfl
  · rw [silenced, client.step_withQueue _ htouches, silenced,
      client.queue_step_of_not_touches htouches]

/-! ## Runs -/

/-- The moments of the run without noise are those of the run with it that are heard, in the same
states but for the noise that waits. -/
theorem moments_silenced (client : Client) (events : List Event) :
    client.silenced.moments ((client.heard events).map Moment.event) =
      (client.heard events).map Moment.silenced := by
  induction events generalizing client with
  | nil => rfl
  | cons event rest ih =>
      rw [heard, moments_cons]
      cases hnoise : client.isNoise event with
      | true =>
          rw [List.filter_cons_of_neg (by simp [Moment.isNoise, hnoise]), ← heard,
            ← (step_of_isNoise hnoise).1]
          exact ih (client.step event).1
      | false =>
          rw [List.filter_cons_of_pos (by simp [Moment.isNoise, hnoise]), ← heard, List.map_cons,
            List.map_cons, moments_cons, step_silenced hnoise, ih]
          rfl

/-- Without the noise a run ends in the same state, but for the noise that waits, and has put out
the same. -/
theorem run_silenced (client : Client) (events : List Event) :
    client.silenced.run ((client.heard events).map Moment.event) =
      ((client.run events).1.silenced, (client.run events).2) := by
  induction events generalizing client with
  | nil => rfl
  | cons event rest ih =>
      rw [heard, moments_cons]
      cases hnoise : client.isNoise event with
      | true =>
          obtain ⟨hsame, hnothing⟩ := step_of_isNoise hnoise
          rw [List.filter_cons_of_neg (by simp [Moment.isNoise, hnoise]), ← heard, ← hsame, ih,
            run_cons, hnothing, List.nil_append]
      | false =>
          rw [List.filter_cons_of_pos (by simp [Moment.isNoise, hnoise]), ← heard, List.map_cons,
            run_cons, step_silenced hnoise, ih, run_cons]

/-- What happens while the channels are opened at a start, without the noise. -/
def heardMeanwhile (config : Config) (attempt : Channel → Attempt)
    (meanwhile : Task → List Incident) : Task → List Incident :=
  (Manager.empty : Manager Unit).quieted config () attempt meanwhile (Manager.wantedTasks config)

/-- Without the noise that comes in while the channels are opened a start leads to the client that
is silenced, and puts out the same. -/
theorem start_heardMeanwhile {config : Config} {read : FileReader} {attempt : Channel → Attempt}
    {meanwhile : Task → List Incident} {outputs : List Output}
    (hstart : start config read attempt meanwhile = (.ok client, outputs)) :
    start config read attempt (heardMeanwhile config attempt meanwhile) =
      (.ok client.silenced, outputs) := by
  have hquieted :
      Manager.empty.opening config () attempt (heardMeanwhile config attempt meanwhile) =
        (firstOpening config attempt meanwhile).silenced :=
    Manager.opening_quieted config () attempt meanwhile Manager.empty
  unfold start at hstart ⊢
  split at hstart
  · cases hstart
  · next page _ =>
    dsimp only at hstart ⊢
    split at hstart
    · cases hstart
    · next hopened =>
      cases hstart
      let begun := opened config page (firstOpening config attempt meanwhile)
      have hgranted : (firstOpening config attempt meanwhile).silenced.result = .ok () := hopened
      have hbegun : opened config page (firstOpening config attempt meanwhile).silenced =
          begun.withQueue (begun.queue.filter Inbound.isMeaningful) := by
        simp only [opened, begun, withQueue, Opening.silenced, List.filter_map]
        rfl
      have hqueue : (begun.fetchListing .listing).1.queue = begun.queue :=
        congrArg (·.2.2) (begun.core_fetchListing .listing)
      rw [hquieted, hgranted]
      change (Except.ok ((opened config page (firstOpening config attempt meanwhile).silenced
        ).fetchListing .listing).1, wireOutputs _ ++ _ :: ((opened config page
          (firstOpening config attempt meanwhile).silenced).fetchListing .listing).2) = _
      rw [hbegun, fetchListing_withQueue, ← hqueue]
      rfl

/-- A run of a client that has started is compared with the run in which nothing happens but what
is heard of it, from the opening of the channels on. At every event that is left the client is in
the same state, but for the noise that waits, it puts out the same, and the page afterwards is the
same in all of its parts. Both runs put out the same as a whole, and they end in the same state,
again but for the noise that waits: every session reads on and every later message comes. -/
theorem run_heard_of_start {config : Config} {read : FileReader} {attempt : Channel → Attempt}
    {meanwhile : Task → List Incident} {client : Client} {outputs : List Output}
    (hstart : start config read attempt meanwhile = (.ok client, outputs)) (events : List Event) :
    let heard := client.heard events
    ∃ quiet, start config read attempt (heardMeanwhile config attempt meanwhile) =
        (.ok quiet, outputs) ∧
      (quiet.moments (heard.map Moment.event)).map (fun moment =>
          (moment.event, moment.before, moment.outputs, moment.after.page)) =
        heard.map (fun moment =>
          (moment.event, moment.before.silenced, moment.outputs, moment.after.page)) ∧
      (quiet.run (heard.map Moment.event)).2 = (client.run events).2 ∧
      (quiet.run (heard.map Moment.event)).1 = (client.run events).1.silenced ∧
      ((∀ task, meanwhile task = []) → quiet = client) := by
  intro heard
  have hmoments := client.moments_silenced events
  have hrun := client.run_silenced events
  refine ⟨client.silenced, start_heardMeanwhile hstart, ?_, by rw [hrun], by rw [hrun], ?_⟩
  · rw [hmoments, List.map_map]
    apply List.map_congr_left
    intro moment hmem
    have hheard : moment.before.isNoise moment.event = false := by
      simpa [Moment.isNoise] using (List.mem_filter.1 hmem).2
    have hstep := step_silenced hheard
    simp only [Function.comp_apply, Moment.silenced, Moment.outputs, Moment.after, hstep]
    rfl
  · intro hnothing
    have hheard : heardMeanwhile config attempt meanwhile = meanwhile := by
      funext task
      rw [hnothing task]
      exact Manager.quieted_eq_nil config () attempt hnothing _ _ task
    have hquiet := start_heardMeanwhile hstart
    rw [hheard, hstart] at hquiet
    exact (Except.ok.inj (congrArg (·.1) hquiet)).symm

/-- While the channels are opened there come a text that is no frame and feedback that cannot be
read, and later a heart-beat, another text that is no frame, a receipt, a message that nobody has
subscribed to, more feedback that cannot be read and the signal for a new round. Only the signal is
heard. -/
theorem run_heard_of_start_noisy :
    let attempt : Channel → Attempt := fun _ => Manager.grantedAttempt
    let message (destination body : String) : String :=
      { Frame.bare .message [("destination", destination)] with body }.encode
    let feedback : String :=
      { Frame.bare .message [("subscription", "sub-1")] with body := "no record" }.encode
    let meanwhile : Task → List Incident
      | .connect .control =>
        [.receive .submit (.text "no frame"), .receive .submit (.text feedback)]
      | _ => []
    let events : List Event :=
      [.receive .control (.text "\n"), .receive .submit (.text "no frame"),
        .receive .control (.text (Frame.bare .receipt []).encode),
        .receive .control (.text (message "/queue/other" "")), .receive .submit (.text feedback),
        .receive .control (.text (message "/queue/start" "")), .render 1, .render 2, .render 3]
    ∃ client quiet outputs,
      start Session.localConfig (fun _ => .ok "") attempt meanwhile = (.ok client, outputs) ∧
        start Session.localConfig (fun _ => .ok "") attempt
          (heardMeanwhile Session.localConfig attempt meanwhile) = (.ok quiet, outputs) ∧
        client.queue.length = 1 ∧ quiet.queue.length = 0 ∧
        (client.heard events).length = 2 ∧ (client.run events).1.page.reloadCount = 1 ∧
        (quiet.run ((client.heard events).map Moment.event)).2 = (client.run events).2 ∧
        (quiet.run ((client.heard events).map Moment.event)).1.page.reloadCount = 1 := by
  intro attempt message feedback meanwhile events
  have hseen : ∃ client ∈ (start Session.localConfig (fun _ => .ok "") attempt
      meanwhile).1.toOption, client.queue.length = 1 ∧ client.silenced.queue.length = 0 ∧
        (client.heard events).length = 2 ∧ (client.run events).1.page.reloadCount = 1 := by
    decide +kernel
  obtain ⟨client, outputs, hstart, hwaits, hsilent, hlength, hreloads⟩ := exists_of_start hseen
  obtain ⟨quiet, hquiet, -, houtputs, hend, -⟩ := run_heard_of_start hstart events
  have hsame : quiet = client.silenced := by
    rw [start_heardMeanwhile hstart] at hquiet
    exact (Except.ok.inj (congrArg (·.1) hquiet)).symm
  refine ⟨client, quiet, outputs, hstart, hquiet, hwaits, ?_, hlength, hreloads, houtputs, ?_⟩
  · rw [hsame]
    exact hsilent
  · rw [hend]
    exact hreloads

end Client

end ClassroomClient
