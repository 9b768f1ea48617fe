/-
# What a channel can deliver

Each channel has a few topics of its own. The session of a channel has handlers for no others, so
whatever comes in on its connection, a forged address included, is delivered on one of them or not
at all. This holds from the moment the channels are opened and is kept by everything that is done
with a session or happens to it.
-/

import ClassroomClient.Proofs.Session.Tasks

namespace ClassroomClient

open Stomp

variable {Handler : Type}

/-- The topics that a message on a channel can have for the client. -/
inductive Channel.Publishes : Channel → String → Prop
  | broadcasts : Publishes .submit "/topic/messages"
  | feedback : Publishes .submit "/user/queue/feedback"
  | compileResults : Publishes .submit "/user/queue/compilefeedback"
  | roundStart : Publishes .control "/queue/start"
  | roundStop : Publishes .control "/queue/stop"
  | rankingsChange : Publishes .feedback "/queue/testfeedback"

/-- These are the topics that are subscribed when the channels are opened. -/
theorem Channel.publishes_of_mem_topics {channel : Channel} {topic : String}
    (hmem : topic ∈ channel.topics) : channel.Publishes topic := by
  cases channel with
  | submit =>
      simp only [Channel.topics, List.mem_cons, List.not_mem_nil, or_false] at hmem
      rcases hmem with rfl | rfl | rfl
      · exact .broadcasts
      · exact .feedback
      · exact .compileResults
  | control =>
      simp only [Channel.topics, List.mem_cons, List.not_mem_nil, or_false] at hmem
      rcases hmem with rfl | rfl
      · exact .roundStart
      · exact .roundStop
  | feedback =>
      simp only [Channel.topics, List.mem_cons, List.not_mem_nil, or_false] at hmem
      rw [hmem]
      exact .rankingsChange

/-! ## Sessions -/

namespace Session

/-- A topic gets a handler by being subscribed and in no other way. -/
theorem contains_of_perform {session : Session Handler} {operation : Operation Handler}
    {name : String}
    (hcontains : (session.perform operation).1.subscriptions.handlers.contains name = true) :
    session.subscriptions.handlers.contains name = true ∨
      ∃ handler, operation = .subscribe name handler := by
  obtain ⟨handler, hfind⟩ := Option.isSome_iff_exists.1 hcontains
  rcases find?_of_perform hfind with hold | hsubscribe
  · exact .inl (by rw [Dictionary.contains, hold]; rfl)
  · exact .inr ⟨handler, hsubscribe⟩

/-- A session of the channel with handlers for no topics but those of the channel. -/
structure IsConfined (channel : Channel) (session : Session Handler) : Prop where
  on_channel : session.channel = channel
  handled : ∀ topic, session.subscriptions.handlers.contains topic = true →
    channel.Publishes topic

theorem IsFresh.isConfined {channel : Channel} {session : Session Handler}
    (hfresh : session.IsFresh channel) : session.IsConfined channel where
  on_channel := hfresh.on_channel
  handled := by
    intro topic hcontains
    rw [hfresh.unsubscribed] at hcontains
    cases hcontains

variable {channel : Channel} {session : Session Handler}

/-- A confined session stays so as long as only topics of its channel are subscribed. -/
theorem IsConfined.perform (hconfined : session.IsConfined channel)
    (operation : Operation Handler)
    (hown : ∀ topic handler, operation = .subscribe topic handler → channel.Publishes topic) :
    (session.perform operation).1.IsConfined channel where
  on_channel := (session.kept_perform operation).1.trans hconfined.on_channel
  handled := by
    intro topic hcontains
    rcases contains_of_perform hcontains with hold | ⟨handler, hsubscribe⟩
    · exact hconfined.handled topic hold
    · exact hown topic handler hsubscribe

/-- Whatever comes in on the connection of a confined session is delivered on a topic of the
channel or not at all. -/
theorem IsConfined.delivered (hconfined : session.IsConfined channel) {event : SocketEvent}
    {handler : Handler} {message : Inbound}
    (hdelivered : (session.receive event).2 = some (handler, message)) :
    message.channel = channel ∧ channel.Publishes message.topic ∧ ∃ text, event = .text text := by
  obtain ⟨text, frame, hoperation, _, hdeliver⟩ :=
    @delivered_eq_some _ session (.receive event) _ hdelivered
  obtain ⟨_, hfound, hmessage⟩ := deliver?_eq_some.1 hdeliver
  cases hoperation
  refine ⟨?_, ?_, text, rfl⟩
  · rw [hmessage]
    exact hconfined.on_channel
  · apply hconfined.handled
    rw [Dictionary.contains, Subscriptions.find?_of_handlerFor? hfound]
    rfl

end Session

/-! ## Managers -/

namespace Manager

/-- Every channel has a session that is confined to it or none. -/
def IsConfined (manager : Manager Handler) : Prop :=
  ∀ channel session, manager.session? channel = some session → session.IsConfined channel

theorem isConfined_empty : (empty : Manager Handler).IsConfined := nofun

variable {manager : Manager Handler}

theorem IsConfined.set (hconfined : manager.IsConfined) {channel : Channel}
    {session : Option (Session Handler)} (hsession : ∀ kept ∈ session, kept.IsConfined channel) :
    (manager.set channel session).IsConfined := by
  intro other found hfound
  rw [session?_set] at hfound
  split at hfound
  · next hother =>
    rw [hother]
    exact hsession found hfound
  · exact hconfined other found hfound

theorem IsConfined.discard (hconfined : manager.IsConfined) (channel : Channel) :
    (manager.discard channel).1.IsConfined := by
  unfold Manager.discard
  split
  · exact hconfined
  · exact hconfined.set nofun

theorem IsConfined.disconnectAll (hconfined : manager.IsConfined) :
    manager.disconnectAll.1.IsConfined :=
  ((hconfined.discard .submit).discard .control).discard .feedback

theorem IsConfined.openChannel (hconfined : manager.IsConfined) (config : Config)
    (channel : Channel) (attempt : Attempt) :
    (manager.openChannel config channel attempt).1.IsConfined := by
  have hdiscarded := hconfined.discard channel
  unfold Manager.openChannel
  split
  · exact hconfined
  · dsimp only
    split
    · exact hdiscarded
    · next session written hconnected =>
      apply hdiscarded.set
      rintro _ ⟨⟩
      exact ((Session.isFresh_of_connect hconnected).receiveEarly _).isConfined

/-- Only topics of a channel may be subscribed there. -/
theorem IsConfined.subscribe (hconfined : manager.IsConfined) {channel : Channel} {topic : String}
    (hown : channel.Publishes topic) (handler : Handler) :
    (manager.subscribe channel topic handler).1.IsConfined := by
  unfold Manager.subscribe
  split
  · exact hconfined
  · next session hsession =>
    apply hconfined.set
    rintro _ ⟨⟩
    apply (hconfined channel session hsession).perform (.subscribe topic handler)
    rintro _ _ ⟨⟩
    exact hown

theorem IsConfined.receive (hconfined : manager.IsConfined) (channel : Channel)
    (event : SocketEvent) : (manager.receive channel event).1.IsConfined := by
  unfold Manager.receive
  split
  · exact hconfined
  · next session hsession =>
    apply hconfined.set
    rintro _ ⟨⟩
    exact (hconfined channel session hsession).perform (.receive event) nofun

theorem IsConfined.send (hconfined : manager.IsConfined) (channel : Channel)
    (destination payload : String) :
    (manager.send channel destination payload).1.IsConfined := by
  unfold Manager.send
  split
  · exact hconfined
  · next session hsession =>
    apply hconfined.set
    rintro _ ⟨⟩
    exact (hconfined channel session hsession).perform (.send destination payload) nofun

theorem IsConfined.lose (hconfined : manager.IsConfined) (channel : Channel) (reason : String) :
    (manager.lose channel reason).IsConfined := by
  apply hconfined.set
  intro kept hkept
  obtain ⟨session, hsession, rfl⟩ := Option.map_eq_some_iff.1 hkept
  exact (hconfined channel session hsession).perform (.lose reason) nofun

/-- What is delivered came as a text on its channel, on a topic of that channel. -/
theorem IsConfined.delivered (hconfined : manager.IsConfined) {channel : Channel}
    {event : SocketEvent} {handler : Handler} {message : Inbound}
    (hdelivered : (manager.receive channel event).2 = some (handler, message)) :
    message.channel = channel ∧ channel.Publishes message.topic ∧ ∃ text, event = .text text := by
  unfold Manager.receive at hdelivered
  split at hdelivered
  · cases hdelivered
  · next session hsession =>
    exact (hconfined channel session hsession).delivered hdelivered

/-- Whatever is done with a manager, it stays confined as long as only topics of their channels are
subscribed, and what comes in is on a topic of its channel. -/
theorem IsConfined.perform (hconfined : manager.IsConfined) (config : Config)
    {operation : Operation Handler}
    (hown : ∀ channel topic handler, operation = .subscribe channel topic handler →
      channel.Publishes topic) :
    (manager.perform config operation).1.IsConfined ∧
      ∀ delivery ∈ (manager.perform config operation).2.delivered,
        delivery.2.channel.Publishes delivery.2.topic := by
  cases operation with
  | openChannel channel attempt => exact ⟨hconfined.openChannel config channel attempt, nofun⟩
  | get channel => exact ⟨hconfined, nofun⟩
  | disconnectAll => exact ⟨hconfined.disconnectAll, nofun⟩
  | subscribe channel topic handler =>
      exact ⟨hconfined.subscribe (hown channel topic handler rfl) handler, nofun⟩
  | send channel destination payload => exact ⟨hconfined.send channel destination payload, nofun⟩
  | lose channel reason => exact ⟨hconfined.lose channel reason, nofun⟩
  | receive channel event =>
      refine ⟨hconfined.receive channel event, ?_⟩
      rintro ⟨handler, message⟩ hdelivered
      obtain ⟨hchannel, hpublishes, -⟩ := hconfined.delivered hdelivered
      rwa [← hchannel] at hpublishes

theorem IsConfined.after (hconfined : manager.IsConfined) (config : Config)
    {operations : List (Operation Handler)}
    (hown : ∀ channel topic handler, .subscribe channel topic handler ∈ operations →
      channel.Publishes topic) :
    (manager.after config operations).IsConfined ∧
      ∀ delivery ∈ manager.deliveries config operations,
        delivery.2.channel.Publishes delivery.2.topic := by
  induction operations generalizing manager with
  | nil => exact ⟨hconfined, nofun⟩
  | cons operation rest ih =>
      have hownFirst : ∀ channel topic handler, operation = .subscribe channel topic handler →
          channel.Publishes topic := by
        rintro channel topic handler rfl
        exact hown channel topic handler List.mem_cons_self
      obtain ⟨hnext, hfirst⟩ := hconfined.perform config hownFirst
      obtain ⟨hlast, hlater⟩ := ih hnext fun channel topic handler hmem =>
        hown channel topic handler (List.mem_cons_of_mem _ hmem)
      refine ⟨hlast, ?_⟩
      rw [deliveries, List.forall_mem_append]
      exact ⟨fun delivery hmem => hfirst delivery (Option.mem_toList.1 hmem), hlater⟩

/-- Opening the channels confines them all, whichever of them can be opened and whatever happens
meanwhile. -/
theorem IsConfined.opening (hconfined : manager.IsConfined) (config : Config) (handler : Handler)
    (attempt : Channel → Attempt) (meanwhile : Task → List Incident) :
    (manager.opening config handler attempt meanwhile).manager.IsConfined ∧
      ∀ delivery ∈ (manager.opening config handler attempt meanwhile).delivered,
        delivery.2.channel.Publishes delivery.2.topic := by
  rw [opening_eq]
  apply hconfined.after
  intro channel topic other hmem
  obtain ⟨task, htask, ⟨incident, -, hincident⟩ | hoperation⟩ :=
    (mem_script handler attempt meanwhile).1 hmem
  · cases incident <;> cases hincident
  · have hwanted := (carriedOut_initial config handler attempt meanwhile _ _).subset htask
    cases task with
    | connect _ => cases hoperation
    | subscribe _ _ =>
        cases hoperation
        exact Channel.publishes_of_mem_topics (mem_topics_of_mem_wantedTasks config hwanted)

/-- A text leaves every session as it was, whatever is delivered of it. -/
theorem receive_text (manager : Manager Handler) (channel : Channel) (text : String) :
    (manager.receive channel (.text text)).1 = manager := by
  unfold Manager.receive
  split
  · rfl
  · next session hsession =>
    have hsame : (session.receive (.text text)).1 = session := session.perform_text text
    simp only [hsame, Manager.set]
    congr 1
    funext other
    split
    · next hother => rw [hother, hsession]
    · rfl

end Manager

end ClassroomClient
