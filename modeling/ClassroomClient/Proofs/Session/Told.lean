/-
# What the server was told

The tables of a session against the texts on its connection. A session that stays connected has
told the server of every topic in its tables, under the id that the tables have for it. So the texts
alone tell which topic a message is for: that of the last subscription with the id that the message
names.
-/

import ClassroomClient.Proofs.Session.Lent

namespace ClassroomClient

open Stomp

variable {Handler : Type}

/-! ## Subscriptions that are granted -/

namespace Session

/-- A session on which all the topics can be subscribed: it is connected, and the server is reached
or needs not be told of any of them. -/
structure Accepts (session : Session Handler) (topics : List String) : Prop where
  connected : session.isConnected = true
  subscribed : ∀ topic ∈ topics, session.subscriptions.handlers.contains topic = true ∨
    session.isWritable = true ∧ session.fault = none

/-- A subscription is granted when the session accepts it. -/
theorem result_subscribe_eq_ok (session : Session Handler) (topic : String) (handler : Handler) :
    (session.subscribe topic handler).2.1 = .ok () ↔ session.Accepts [topic] := by
  constructor
  · intro hgranted
    by_cases hconnected : session.isConnected = true
    · refine ⟨hconnected, List.forall_mem_singleton.2 ?_⟩
      by_cases hcontains : session.subscriptions.handlers.contains topic = true
      · exact .inl hcontains
      · right
        rw [subscribe_of_not_contains hconnected (Bool.eq_false_iff.2 hcontains)] at hgranted
        by_cases hwritable : session.isWritable = true
        · refine ⟨hwritable, ?_⟩
          cases hfault : session.fault with
          | none => rfl
          | some reason =>
              simp [Session.write, hwritable, hfault, Except.mapError] at hgranted
        · simp [Session.write, hwritable, Except.mapError] at hgranted
    · rw [subscribe_of_not_connected (Bool.eq_false_iff.2 hconnected)] at hgranted
      cases hgranted
  · rintro ⟨hconnected, hsubscribed⟩
    by_cases hcontains : session.subscriptions.handlers.contains topic = true
    · rw [subscribe_of_contains hconnected hcontains]
    · rcases List.forall_mem_singleton.1 hsubscribed with hold | ⟨hwritable, hreached⟩
      · exact absurd hold hcontains
      · exact (IsLive.subscribe ⟨hconnected, hwritable, hreached⟩ topic handler).1

/-- A session that was not torn down ends with a subscription that it does not grant. -/
theorem isConnected_of_subscribe {session : Session Handler} {topic : String} {handler : Handler}
    {error : SessionError} (hwritable : session.isWritable = true)
    (hfailed : (session.subscribe topic handler).2.1 = .error error) :
    (session.subscribe topic handler).1.isConnected = false := by
  by_cases hconnected : session.isConnected = true
  · by_cases hcontains : session.subscriptions.handlers.contains topic = true
    · rw [subscribe_of_contains hconnected hcontains] at hfailed
      cases hfailed
    · have hnew := Bool.eq_false_iff.2 hcontains
      have hregistered : ({ session with
          subscriptions := (session.subscriptions.register topic handler).1 } :
            Session Handler).isWritable = true := hwritable
      rw [subscribe_of_not_contains hconnected hnew] at hfailed ⊢
      rcases write_of_writable hregistered
          (subscribeFrame (subscriptionId session.subscriptions.nextId) topic) with
        hwritten | ⟨reason, hended⟩
      · rw [hwritten] at hfailed
        cases hfailed
      · rw [hended]
  · have hended := Bool.eq_false_iff.2 hconnected
    rw [subscribe_of_not_connected hended]
    exact hended

/-- A topic that is new on a session that carries frames is told to the server. -/
theorem IsLive.subscribe_of_not_contains {session : Session Handler} (hlive : session.IsLive)
    {topic : String} (hnew : session.subscriptions.handlers.contains topic = false)
    (handler : Handler) :
    session.subscribe topic handler =
      ({ session with subscriptions := (session.subscriptions.register topic handler).1 }, .ok (),
        [.text (subscribeFrame (subscriptionId session.subscriptions.nextId) topic).encode]) := by
  have hregistered : IsLive { session with
      subscriptions := (session.subscriptions.register topic handler).1 } :=
    ⟨hlive.connected, hlive.writable, hlive.reached⟩
  rw [Session.subscribe_of_not_contains hlive.connected hnew, hregistered.write]
  rfl

end Session

/-! ## What the server was told -/

/-- The topic of the last subscription with an id among the texts on a connection. -/
def topicOf? (texts : List String) (id : String) : Option String :=
  ((texts.filterMap subscription?).reverse.find? fun frame => frame.header? "id" = some id).bind
    (·.header? "destination")

/-- The topic that a message on a connection is for: the topic of the last subscription with the id
that the message names, whatever its destination says or, without such a subscription, its
destination if that was subscribed. -/
inductive Concerns (texts : List String) (frame : Frame) : String → Prop
  | named {id topic : String} (hid : frame.header? "subscription" = some id)
      (htopic : topicOf? texts id = some topic) : Concerns texts frame topic
  | addressed {topic : String}
      (hunnamed : ∀ id, frame.header? "subscription" = some id → topicOf? texts id = none)
      (hdestination : frame.header? "destination" = some topic)
      (hsubscribed : some topic ∈ destinations texts) : Concerns texts frame topic

theorem mem_destinations_of_topicOf? {texts : List String} {id topic : String}
    (htopic : topicOf? texts id = some topic) : some topic ∈ destinations texts := by
  obtain ⟨frame, hfind, hdestination⟩ := Option.bind_eq_some_iff.1 htopic
  have hmem := List.mem_of_find?_eq_some hfind
  exact List.mem_map.2 ⟨frame, List.mem_reverse.1 hmem, hdestination⟩

theorem filterMap_append_subscribeFrame (texts : List String) (id topic : String) :
    (texts ++ [(subscribeFrame id topic).encode]).filterMap subscription? =
      texts.filterMap subscription? ++ [subscribeFrame id topic] := by
  rw [List.filterMap_append, List.filterMap_cons_some (subscription?_subscribeFrame id topic),
    List.filterMap_nil]

theorem topicOf?_append_subscribeFrame (texts : List String) (id topic name : String) :
    topicOf? (texts ++ [(subscribeFrame id topic).encode]) name =
      if name = id then some topic else topicOf? texts name := by
  have hid : (subscribeFrame id topic).header? "id" = some id := rfl
  rw [topicOf?, filterMap_append_subscribeFrame, List.reverse_append, List.reverse_singleton,
    List.singleton_append, List.find?_cons, hid]
  by_cases hname : name = id
  · rw [if_pos hname, decide_eq_true (by rw [hname])]
    rfl
  · rw [if_neg hname, decide_eq_false fun h => hname (Option.some.inj h).symm]
    rfl

theorem destinations_append_subscribeFrame (texts : List String) (id topic : String) :
    destinations (texts ++ [(subscribeFrame id topic).encode]) =
      destinations texts ++ [some topic] := by
  rw [destinations, filterMap_append_subscribeFrame, List.map_append]
  rfl

namespace Session

/-- The tables of a session are those of the subscriptions that the server was told. -/
structure Told (session : Session Handler) (texts : List String) : Prop where
  named : ∀ id, session.subscriptions.topics.find? id = topicOf? texts id
  handled : ∀ topic, session.subscriptions.handlers.contains topic = true ↔
    some topic ∈ destinations texts

/-- Only subscriptions count. -/
theorem Told.of_silent {session next : Session Handler} {texts more : List String}
    (htold : session.Told texts)
    (htopics : next.subscriptions.topics = session.subscriptions.topics)
    (hhandlers : ∀ topic, next.subscriptions.handlers.contains topic = true ↔
      session.subscriptions.handlers.contains topic = true)
    (hsilent : more.filterMap subscription? = []) : next.Told (texts ++ more) := by
  have hsame : (texts ++ more).filterMap subscription? = texts.filterMap subscription? := by
    rw [List.filterMap_append, hsilent, List.append_nil]
  constructor
  · intro id
    rw [htopics, htold.named, topicOf?, topicOf?, hsame]
  · intro topic
    rw [hhandlers, htold.handled, destinations, destinations, hsame]

/-- A subscription on a session that stays connected is told to the server if the topic is new. -/
theorem Told.subscribe {session : Session Handler} {texts : List String}
    (htold : session.Told texts) {topic : String} {handler : Handler}
    (hgranted : (session.subscribe topic handler).2.1 = .ok ()) :
    (session.subscribe topic handler).1.Told
      (texts ++ (session.subscribe topic handler).2.2.filterMap WireEvent.text?) := by
  have haccepts := (session.result_subscribe_eq_ok topic handler).1 hgranted
  have hhandlers (name : String) :
      (session.subscriptions.register topic handler).1.handlers.contains name = true ↔
        name = topic ∨ session.subscriptions.handlers.contains name = true := by
    rw [Subscriptions.handlers_register, Dictionary.contains_insert]
  by_cases hcontains : session.subscriptions.handlers.contains topic = true
  · rw [subscribe_of_contains haccepts.connected hcontains]
    refine htold.of_silent ?_ ?_ rfl
    · rw [Subscriptions.register, if_pos hcontains]
    · intro name
      rw [hhandlers]
      refine ⟨?_, .inr⟩
      rintro (rfl | hold)
      · exact hcontains
      · exact hold
  · have hnew := Bool.eq_false_iff.2 hcontains
    rcases haccepts.subscribed topic (List.mem_singleton_self topic) with
      hold | ⟨hwritable, hreached⟩
    · exact absurd hold hcontains
    · have hlive : session.IsLive := ⟨haccepts.connected, hwritable, hreached⟩
      rw [hlive.subscribe_of_not_contains hnew]
      change Told _ (texts ++ [(subscribeFrame _ topic).encode])
      constructor
      · intro id
        rw [topicOf?_append_subscribeFrame, Subscriptions.register, if_neg hcontains,
          Dictionary.find?_insert, htold.named]
      · intro name
        rw [destinations_append_subscribeFrame, hhandlers, htold.handled, List.mem_append,
          List.mem_singleton, Option.some.injEq]
        exact Or.comm

/-- A session that stays connected tells the server of every new topic. -/
theorem Told.perform {session : Session Handler} {texts : List String} (htold : session.Told texts)
    (hwritable : session.isWritable = true) {operation : Operation Handler}
    (hconnected : (session.perform operation).1.isConnected = true) :
    (session.perform operation).1.Told
      (texts ++ (session.perform operation).2.written.filterMap WireEvent.text?) := by
  have hquiet (hother : ∀ topic handler, operation ≠ .subscribe topic handler)
      (hsilent : ((session.perform operation).2.written.filterMap WireEvent.text?).filterMap
        subscription? = []) :
      (session.perform operation).1.Told
        (texts ++ (session.perform operation).2.written.filterMap WireEvent.text?) := by
    rcases (session.kept_perform operation).2 with hkept | ⟨topic, handler, hsubscribe, -⟩
    · exact htold.of_silent (by rw [hkept]) (fun _ => by rw [hkept]) hsilent
    · exact absurd hsubscribe (hother topic handler)
  cases operation with
  | subscribe topic handler =>
      cases hresult : (session.subscribe topic handler).2.1 with
      | ok _ => exact htold.subscribe hresult
      | error error =>
          have hended := isConnected_of_subscribe hwritable hresult
          rw [perform_subscribe, hended] at hconnected
          cases hconnected
  | send destination payload =>
      apply hquiet (by simp)
      rw [perform_send]
      rcases session.send_cases destination payload with hsent | ⟨error, hfailed⟩
      · have hnone : subscription? (sendFrame destination payload).encode = none :=
          subscription?_encode_of_ne (by simp [sendFrame, Frame.bare])
        rw [hsent]
        simp [WireEvent.text?, hnone]
      · rw [hfailed]
        rfl
  | disconnect =>
      rw [perform_disconnect, disconnect_of_writable hwritable] at hconnected
      cases hconnected
  | receive event => exact hquiet (by simp) rfl
  | lose reason => exact hquiet (by simp) rfl

theorem Told.after {session : Session Handler} {texts : List String} (htold : session.Told texts)
    (hheld : session.IsHeld) {operations : List (Operation Handler)}
    (hlent : ∀ operation ∈ operations, operation.IsLent)
    (hconnected : (session.after operations).isConnected = true) :
    (session.after operations).Told
      (texts ++ (session.written operations).filterMap WireEvent.text?) := by
  induction operations generalizing session texts with
  | nil =>
      rw [written, outcomes, List.flatMap_nil, List.filterMap_nil, List.append_nil]
      exact htold
  | cons operation rest ih =>
      have hstill : (session.perform operation).1.isConnected = true := by
        by_contra hended
        rw [after_cons, isConnected_after (Bool.eq_false_iff.2 hended)] at hconnected
        cases hconnected
      rw [after_cons, written_cons, List.filterMap_append, ← List.append_assoc]
      exact ih (htold.perform hheld.writable hstill)
        (hheld.perform (hlent operation List.mem_cons_self)).1
        (fun other hmem => hlent other (List.mem_cons_of_mem _ hmem)) hconnected

end Session

end ClassroomClient
