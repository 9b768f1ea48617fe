/-
# What waits to be rendered

Only texts that come in add to the queue, each at most one message, and only rendering takes from
it. In every state that the client can reach the sessions are confined to their channels, so
whatever waits is on a topic of the channel it came on.
-/

import ClassroomClient.Proofs.Client.Effect
import ClassroomClient.Proofs.Client.Run
import ClassroomClient.Proofs.Session.Confinement

namespace ClassroomClient

namespace Client

/-- The message that a channel delivers at something that comes in. -/
def delivered (client : Client) (channel : Channel) (incoming : SocketEvent) : Option Inbound :=
  (client.manager.receive channel incoming).2.map (·.2)

/-- A step takes the first message from the queue, leaves the queue as it is, or adds what is
delivered to it. -/
theorem queue_step (client : Client) (event : Event) :
    (client.step event).1.queue = client.queue ∨
      (∃ now message, event = .render now ∧
        client.queue = message :: (client.step event).1.queue) ∨
      ∃ channel incoming, event = .receive channel incoming ∧
        (client.step event).1.queue =
          client.queue ++ (client.delivered channel incoming).toList := by
  obtain ⟨_, _, queue, heffect, _, _, hqueue⟩ := client.exists_effect event
  rw [hqueue]
  cases heffect with
  | received channel incoming => exact .inr (.inr ⟨channel, incoming, rfl, rfl⟩)
  | rendered hrunning hqueue hdecode => exact .inr (.inl ⟨_, _, rfl, hqueue⟩)
  | skipped hqueue => exact .inr (.inl ⟨_, _, rfl, hqueue⟩)
  | _ => exact .inl rfl

/-- The event may take from the queue or add to it. -/
inductive TouchesQueue : Event → Prop
  | render (now : Int) : TouchesQueue (.render now)
  | receive (channel : Channel) (incoming : SocketEvent) : TouchesQueue (.receive channel incoming)

theorem queue_step_of_not_touches (client : Client) {event : Event}
    (huntouched : ¬ TouchesQueue event) : (client.step event).1.queue = client.queue := by
  rcases client.queue_step event with hsame | ⟨now, _, rfl, _⟩ | ⟨channel, incoming, rfl, _⟩
  · exact hsame
  · exact absurd (.render now) huntouched
  · exact absurd (.receive channel incoming) huntouched

/-- The sessions and the messages that wait keep to their channels. -/
structure IsConfined (client : Client) : Prop where
  sessions : client.manager.IsConfined
  waiting : ∀ message ∈ client.queue, message.channel.Publishes message.topic

variable {client : Client}

/-- What is delivered came as a text on its channel and is on a topic of that channel. -/
theorem IsConfined.delivered (hconfined : client.IsConfined) {channel : Channel}
    {incoming : SocketEvent} {message : Inbound}
    (hdelivered : message ∈ client.delivered channel incoming) :
    message.channel = channel ∧ channel.Publishes message.topic ∧
      ∃ text, incoming = .text text := by
  obtain ⟨⟨handler, _⟩, hreceived, rfl⟩ := Option.map_eq_some_iff.1 hdelivered
  exact hconfined.sessions.delivered hreceived

/-- Nothing gets into the queue but what a text on its channel delivers. -/
theorem IsConfined.mem_queue_step (hconfined : client.IsConfined) {event : Event}
    {message : Inbound} (hmem : message ∈ (client.step event).1.queue) :
    message ∈ client.queue ∨
      (∃ text, event = .receive message.channel (.text text)) ∧
        message.channel.Publishes message.topic := by
  rcases client.queue_step event with hsame | ⟨_, first, _, hfirst⟩ |
    ⟨channel, incoming, rfl, hadded⟩
  · rw [hsame] at hmem
    exact .inl hmem
  · rw [hfirst]
    exact .inl (List.mem_cons_of_mem first hmem)
  · rw [hadded] at hmem
    rcases List.mem_append.1 hmem with hold | hnew
    · exact .inl hold
    · obtain ⟨rfl, hpublishes, text, rfl⟩ := hconfined.delivered (Option.mem_toList.1 hnew)
      exact .inr ⟨⟨text, rfl⟩, hpublishes⟩

/-- Every step leaves the sessions confined. -/
theorem IsConfined.sessions_step (hconfined : client.IsConfined) (event : Event) :
    (client.step event).1.manager.IsConfined := by
  obtain ⟨hsessions, _⟩ := hconfined
  obtain ⟨_, manager, _, heffect, _, hmanager, _⟩ := client.exists_effect event
  rw [hmanager]
  cases heffect with
  | received channel incoming => exact hsessions.receive channel incoming
  | lost channel reason => exact hsessions.lose channel reason
  | sent read now destination payload => exact hsessions.send .control destination payload
  | ended read now => exact hsessions.disconnectAll
  | _ => exact hsessions

theorem IsConfined.step (hconfined : client.IsConfined) (event : Event) :
    (client.step event).1.IsConfined where
  sessions := hconfined.sessions_step event
  waiting := by
    intro message hmem
    rcases hconfined.mem_queue_step hmem with hold | ⟨_, hpublishes⟩
    · exact hconfined.waiting message hold
    · exact hpublishes

/-- The client starts with confined sessions, and what has come in by then came on them. -/
theorem isConfined_of_start {config : Config} {read : FileReader} {attempt : Channel → Attempt}
    {meanwhile : Task → List Incident} {outputs : List Output}
    (hstart : start config read attempt meanwhile = (.ok client, outputs)) :
    client.IsConfined := by
  obtain ⟨page, _, _, hcore⟩ := core_of_start hstart
  obtain ⟨hsessions, hdelivered⟩ :=
    Manager.isConfined_empty.opening config () attempt meanwhile
  have hmanager : client.manager = (firstOpening config attempt meanwhile).manager :=
    congrArg (·.2.1) hcore
  have hqueue : client.queue = (firstOpening config attempt meanwhile).delivered.map (·.2) :=
    congrArg (·.2.2) hcore
  constructor
  · rw [hmanager]
    exact hsessions
  · intro message hmem
    rw [hqueue] at hmem
    obtain ⟨delivery, hdelivery, rfl⟩ := List.mem_map.1 hmem
    exact hdelivered delivery hdelivery

theorem Reachable.isConfined (hreachable : client.Reachable) : client.IsConfined := by
  induction hreachable with
  | start hstart => exact isConfined_of_start hstart
  | step hreachable event ih => exact ih.step event

/-- A text adds what it delivers to the queue and does nothing else. -/
theorem step_text (client : Client) (channel : Channel) (text : String) :
    ∃ admitted : Option Inbound,
      client.step (.receive channel (.text text)) =
          ({ client with queue := client.queue ++ admitted.toList }, []) ∧
        ∀ message ∈ admitted, message ∈ client.delivered channel (.text text) := by
  unfold step
  split
  · refine ⟨none, ?_, nofun⟩
    rw [Option.toList_none, List.append_nil]
  · refine ⟨client.delivered channel (.text text), ?_, fun _ => id⟩
    have hreceived : client.receive channel (.text text) =
        ({ client with
            manager := (client.manager.receive channel (.text text)).1
            queue := client.queue ++ (client.delivered channel (.text text)).toList }, []) := rfl
    dsimp only
    rw [hreceived, client.manager.receive_text]

end Client

end ClassroomClient
