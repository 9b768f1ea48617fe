/-
# Runs of the client

The states of the client are those that a start and events in any order lead to. A run may be cut
anywhere: what it puts out is what its parts put out. Its smallest parts are its moments, one for
each event. Statements about stretches of a run speak of the messages that are rendered in it and
of the line that is handled in it.
-/

import ClassroomClient.Proofs.Client.Change

namespace ClassroomClient

namespace Client

/-- The client was started and has come to this state, whatever happened. -/
inductive Reachable : Client → Prop
  | start {config : Config} {read : FileReader} {attempt : Channel → Attempt} {client : Client}
      {meanwhile : Task → List Incident} {outputs : List Output}
    (hstart : start config read attempt meanwhile = (.ok client, outputs)) :
      Reachable client
  | step {client : Client} (hreachable : Reachable client) (event : Event) :
      Reachable (client.step event).1

/-- What is seen of the client that a start yields holds of a client that starts. -/
theorem exists_of_start {config : Config} {read : FileReader} {attempt : Channel → Attempt}
    {meanwhile : Task → List Incident} {holds : Client → Prop}
    (hseen : ∃ client ∈ (start config read attempt meanwhile).1.toOption, holds client) :
    ∃ client outputs, start config read attempt meanwhile = (.ok client, outputs) ∧
      holds client := by
  obtain ⟨client, hclient, hholds⟩ := hseen
  refine ⟨client, (start config read attempt meanwhile).2, Prod.ext ?_ rfl, hholds⟩
  cases hstart : (start config read attempt meanwhile).1 with
  | error error =>
      rw [hstart] at hclient
      cases hclient
  | ok started =>
      rw [hstart] at hclient
      cases hclient
      rfl

@[simp] theorem run_nil (client : Client) : client.run [] = (client, []) := rfl

theorem run_cons (client : Client) (event : Event) (rest : List Event) :
    client.run (event :: rest) =
      (((client.step event).1.run rest).1,
        (client.step event).2 ++ ((client.step event).1.run rest).2) := rfl

/-- The second part of a run is a run from where the first part ends. -/
theorem run_append (client : Client) (earlier later : List Event) :
    client.run (earlier ++ later) =
      (((client.run earlier).1.run later).1,
        (client.run earlier).2 ++ ((client.run earlier).1.run later).2) := by
  induction earlier generalizing client with
  | nil => rfl
  | cons event rest ih =>
      rw [List.cons_append, run_cons, ih, run_cons, List.append_assoc]

theorem Reachable.run {client : Client} (hreachable : client.Reachable) (events : List Event) :
    (client.run events).1.Reachable := by
  induction events generalizing client with
  | nil => exact hreachable
  | cons event rest ih => exact ih (hreachable.step event)

/-- A client that runs on keeps its configuration. -/
theorem config_step {client : Client} {event : Event}
    (hrunning : (client.step event).1.stage ≠ .ended) :
    (client.step event).1.config = client.config := by
  have hchange := client.step_change event
  generalize client.step event = result at hchange hrunning ⊢
  cases hchange with
  | ended hready hpage hended => exact absurd hended hrunning
  | sent hstage hmoves => exact hmoves.config
  | _ => exact Moves.config (by assumption)

theorem step_of_ended {client : Client} (hended : client.stage = .ended) (event : Event) :
    client.step event = (client, []) := if_pos hended

/-- What runs on after a step was running before it. -/
theorem running_of_step {client : Client} {event : Event}
    (hrunning : (client.step event).1.stage ≠ .ended) : client.stage ≠ .ended := by
  intro hended
  rw [step_of_ended hended] at hrunning
  exact hrunning hended

/-- A client that has ended stays so and puts nothing out. -/
theorem run_of_ended {client : Client} (hended : client.stage = .ended) (events : List Event) :
    client.run events = (client, []) := by
  induction events with
  | nil => rfl
  | cons event rest ih =>
      rw [run_cons, step_of_ended hended, ih]
      rfl

/-- A run that has not ended had not ended after its first step. -/
theorem running_of_run {client : Client} {event : Event} {rest : List Event}
    (hrunning : (client.run (event :: rest)).1.stage ≠ .ended) :
    (client.step event).1.stage ≠ .ended := by
  intro hended
  have hstays := run_of_ended hended rest
  apply hrunning
  rw [run_cons, hstays]
  exact hended

/-! ## Moments of a run -/

/-- An event with the state in which it finds the client. -/
structure Moment where
  before : Client
  event : Event

/-- The state to which the event leads. -/
def Moment.after (moment : Moment) : Client := (moment.before.step moment.event).1

/-- What the client puts out at the event. -/
def Moment.outputs (moment : Moment) : List Output := (moment.before.step moment.event).2

/-- The moments of a run, one for each event. -/
def moments (client : Client) : List Event → List Moment
  | [] => []
  | event :: rest => ⟨client, event⟩ :: (client.step event).1.moments rest

@[simp] theorem moments_nil (client : Client) : client.moments [] = [] := rfl

@[simp] theorem moments_cons (client : Client) (event : Event) (rest : List Event) :
    client.moments (event :: rest) = ⟨client, event⟩ :: (client.step event).1.moments rest := rfl

/-- A run puts out what its moments put out. -/
theorem flatMap_outputs_moments (client : Client) (events : List Event) :
    (client.moments events).flatMap Moment.outputs = (client.run events).2 := by
  induction events generalizing client with
  | nil => rfl
  | cons event rest ih =>
      rw [moments_cons, List.flatMap_cons, ih, run_cons]
      rfl

/-- A moment of a run is where a part of the run has led. -/
theorem exists_of_mem_moments {client : Client} {events : List Event}
    {moment : Moment} (hmem : moment ∈ client.moments events) :
    ∃ earlier later, events = earlier ++ moment.event :: later ∧
      moment.before = (client.run earlier).1 := by
  induction events generalizing client with
  | nil => cases hmem
  | cons event rest ih =>
      rcases List.mem_cons.1 hmem with rfl | hlater
      · exact ⟨[], rest, rfl, rfl⟩
      · obtain ⟨earlier, later, rfl, hbefore⟩ := ih hlater
        exact ⟨event :: earlier, later, rfl, hbefore⟩

/-! ## Stretches of a run -/

/-- Only rendering has messages to render. -/
theorem not_renders_advance (client : Client) (read : FileReader) (now : Int) (topic : String) :
    ¬ client.Renders (.advance read now) topic := by
  rintro ⟨_, other, message, rest, hrender, _⟩
  cases hrender

/-- A message of the topic is rendered at one of the events. -/
def RendersDuring (client : Client) (events : List Event) (topic : String) : Prop :=
  ∃ earlier event later, events = earlier ++ event :: later ∧
    (client.run earlier).1.Renders event topic

theorem rendersDuring_of_head {client : Client} {event : Event} {topic : String}
    (hrenders : client.Renders event topic) (rest : List Event) :
    client.RendersDuring (event :: rest) topic :=
  ⟨[], event, rest, rfl, hrenders⟩

theorem rendersDuring_of_tail {client : Client} (event : Event) {rest : List Event}
    {topic : String} (hrenders : (client.step event).1.RendersDuring rest topic) :
    client.RendersDuring (event :: rest) topic := by
  obtain ⟨earlier, other, later, rfl, hother⟩ := hrenders
  exact ⟨event :: earlier, other, later, rfl, hother⟩

/-- Nothing is rendered in a stretch in which rendering has no turn. -/
theorem not_rendersDuring {client : Client} {events : List Event} (topic : String)
    (hother : ∀ now, .render now ∉ events) : ¬ client.RendersDuring events topic := by
  rintro ⟨earlier, event, later, rfl, _, now, message, rest, rfl, _⟩
  apply hother now
  exact List.mem_append_right earlier List.mem_cons_self

/-- The events handle the line that waits first, from the event that takes it up to the one after
which the next line can be taken up. -/
structure Handles (client : Client) (line : String) (events : List Event) : Prop where
  ready : client.stage = .ready
  waiting : ∃ rest, client.lines = line :: rest
  begins : ∃ read now later, events = .advance read now :: later
  busy : ∀ earlier later, events = earlier ++ later → earlier ≠ [] → later ≠ [] →
    (client.run earlier).1.stage ≠ .ready
  done : (client.run events).1.stage = .ready

end Client

end ClassroomClient
