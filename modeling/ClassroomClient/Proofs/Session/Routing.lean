/-
# Where messages go

What a text invokes is decided by the history of the session alone: by the topics that were
subscribed before it and by the handler that was registered last for each. The tables of the
session never get out of step with that history, in whatever order subscriptions, repeated
subscriptions and texts come.
-/

import ClassroomClient.Proofs.Session.Run
import ClassroomClient.Proofs.Session.Subscriptions
import ClassroomClient.Proofs.Stomp.RoundTrip

namespace ClassroomClient

open Stomp

namespace Session

variable {Handler : Type}

/-! ## Deliveries -/

/-- Only a message frame with a handler is delivered, and with it the body of the frame. -/
theorem deliver?_eq_some {session : Session Handler} {frame : Frame} {handler : Handler}
    {message : Inbound} :
    session.deliver? frame = some (handler, message) ↔
      frame.command = .message ∧
        session.subscriptions.handlerFor? frame = some (message.topic, handler) ∧
        message = { channel := session.channel, topic := message.topic, body := frame.body } := by
  unfold deliver?
  by_cases hcommand : frame.command = .message
  · rw [if_pos hcommand, Option.map_eq_some_iff]
    constructor
    · rintro ⟨found, hfound, hpair⟩
      cases hpair
      exact ⟨hcommand, hfound, rfl⟩
    · rintro ⟨_, hfound, hmessage⟩
      refine ⟨_, hfound, ?_⟩
      rw [hmessage]
  · simp [hcommand]

/-- An operation that invokes a handler is a text with a frame that the session delivers. -/
theorem delivered_eq_some {session : Session Handler} {operation : Operation Handler}
    {delivery : Handler × Inbound}
    (hdelivered : (session.perform operation).2.delivered = some delivery) :
    ∃ text frame, operation = .receive (.text text) ∧ Frame.parse text = .ok (some frame) ∧
      session.deliver? frame = some delivery := by
  cases operation with
  | subscribe topic handler => cases hdelivered
  | send destination payload => cases hdelivered
  | disconnect => cases hdelivered
  | lose reason => cases hdelivered
  | receive event =>
      change (session.receive event).2 = some delivery at hdelivered
      unfold Session.receive at hdelivered
      split at hdelivered
      · cases hdelivered
      · cases event with
        | text text =>
            dsimp only at hdelivered
            split at hdelivered
            · next frame hparse => exact ⟨text, frame, rfl, hparse, hdelivered⟩
            · cases hdelivered
        | binary => cases hdelivered
        | ping => cases hdelivered
        | close => cases hdelivered
        | broken reason => cases hdelivered

/-- A topic has a handler only if a subscription registered it. -/
theorem find?_of_perform {session : Session Handler} {operation : Operation Handler}
    {topic : String} {handler : Handler}
    (hfind : (session.perform operation).1.subscriptions.handlers.find? topic = some handler) :
    session.subscriptions.handlers.find? topic = some handler ∨
      operation = .subscribe topic handler := by
  rcases (session.kept_perform operation).2 with hsame | ⟨name, other, rfl, hregistered⟩
  · rw [hsame] at hfind
    exact .inl hfind
  · rw [hregistered, Subscriptions.handlers_register, Dictionary.find?_insert] at hfind
    split at hfind
    · next hname =>
      cases hfind
      exact .inr (by rw [hname])
    · exact .inl hfind

/-- A session that reads delivers the frame of a text. -/
theorem delivered_of_parse {session : Session Handler} (hreading : session.isReading = true)
    {text : String} {frame : Frame} (hparse : Frame.parse text = .ok (some frame)) :
    (session.perform (.receive (.text text))).2.delivered = session.deliver? frame := by
  change (session.receive (.text text)).2 = session.deliver? frame
  simp only [Session.receive, hreading, hparse, Bool.not_true, Bool.false_eq_true, if_false]

/-- A text leaves the session as it was, whatever it delivers. -/
theorem perform_text (session : Session Handler) (text : String) :
    (session.perform (.receive (.text text))).1 = session := by
  change (session.receive (.text text)).1 = session
  unfold Session.receive
  dsimp only
  split
  · rfl
  · split <;> rfl

/-! ## What a routing run leaves -/

/-- An operation of a routing run: a subscription or a text that comes in. That frames stop to
reach the server may happen as well. -/
def Operation.IsRouting : Operation Handler → Prop
  | .subscribe _ _ => True
  | .receive (.text _) => True
  | .lose _ => True
  | _ => False

/-- The registration that an operation makes. -/
def Operation.registration? : Operation Handler → Option (String × Handler)
  | .subscribe topic handler => some (topic, handler)
  | _ => none

/-- The registrations of a run. -/
def registrations (operations : List (Operation Handler)) : Registrations Handler :=
  operations.filterMap Operation.registration?

/-- The session still reads its channel, and its tables are those of the registrations. -/
structure Follows (channel : Channel) (registrations : Registrations Handler)
    (session : Session Handler) : Prop where
  on_channel : session.channel = channel
  reading : session.isReading = true
  recorded : session.subscriptions.Records registrations

/-- A subscription that succeeds changes the tables and nothing else. -/
theorem subscribe_of_ok {session : Session Handler} {topic : String} {handler : Handler}
    (hgranted : (session.subscribe topic handler).2.1 = .ok ()) :
    (session.subscribe topic handler).1 =
      { session with subscriptions := (session.subscriptions.register topic handler).1 } := by
  unfold Session.subscribe at hgranted ⊢
  split at hgranted
  · cases hgranted
  · next hconnected =>
    rw [if_neg hconnected]
    dsimp only at hgranted ⊢
    split at hgranted
    · rfl
    · unfold Session.write at hgranted ⊢
      dsimp only at hgranted ⊢
      split at hgranted
      · cases hgranted
      · next hwritable =>
        rw [if_neg hwritable]
        split at hgranted
        · cases hgranted
        · rfl

theorem Follows.perform {channel : Channel} {earlier : Registrations Handler}
    {session : Session Handler} (hfollows : session.Follows channel earlier)
    {operation : Operation Handler} (hrouting : operation.IsRouting)
    (hgranted : (session.perform operation).2.result = .ok ())
    (hfew : (earlier ++ registrations [operation] : Registrations Handler).topics.length
      < 2 ^ 32) :
    (session.perform operation).1.Follows channel (earlier ++ registrations [operation]) := by
  obtain ⟨hchannel, hreading, hrecorded⟩ := hfollows
  cases operation with
  | subscribe topic handler =>
      change (session.subscribe topic handler).1.Follows _ _
      rw [subscribe_of_ok hgranted]
      exact ⟨hchannel, hreading, hrecorded.register topic handler hfew⟩
  | receive event =>
      cases event with
      | text text =>
          rw [perform_text, registrations, List.filterMap_cons_none rfl, List.filterMap_nil,
            List.append_nil]
          exact ⟨hchannel, hreading, hrecorded⟩
      | _ => cases hrouting
  | lose reason =>
      rw [registrations, List.filterMap_cons_none rfl, List.filterMap_nil, List.append_nil]
      exact ⟨hchannel, hreading, hrecorded⟩
  | send destination payload => cases hrouting
  | disconnect => cases hrouting

/-- The tables follow the registrations through a whole run. -/
theorem Follows.after {channel : Channel} {earlier : Registrations Handler}
    {session : Session Handler} (hfollows : session.Follows channel earlier)
    {operations : List (Operation Handler)}
    (hrouting : ∀ operation ∈ operations, operation.IsRouting)
    (hgranted : ∀ outcome ∈ session.outcomes operations, outcome.result = .ok ())
    (hfew : (earlier ++ registrations operations : Registrations Handler).topics.length
      < 2 ^ 32) :
    (session.after operations).Follows channel (earlier ++ registrations operations) := by
  induction operations generalizing session earlier with
  | nil =>
      rw [registrations, List.filterMap_nil, List.append_nil]
      exact hfollows
  | cons operation rest ih =>
      have hsplit : earlier ++ registrations (operation :: rest) =
          (earlier ++ registrations [operation]) ++ registrations rest := by
        rw [List.append_assoc, registrations, registrations, registrations, ← List.filterMap_append]
        rfl
      rw [hsplit] at hfew ⊢
      have hfirst := hfollows.perform (hrouting operation List.mem_cons_self)
        (hgranted _ List.mem_cons_self)
        (Nat.lt_of_le_of_lt (Registrations.topics_length_le _ _) hfew)
      apply ih hfirst _ _ hfew
      · intro other hother
        exact hrouting other (List.mem_cons_of_mem _ hother)
      · intro outcome houtcome
        exact hgranted outcome (List.mem_cons_of_mem _ houtcome)

/-- In a routing run every subscription of a live session succeeds unless the connection is lost. -/
theorem IsLive.result_eq_ok {session : Session Handler} (hlive : session.IsLive)
    {operations : List (Operation Handler)}
    (hrouting : ∀ operation ∈ operations, operation.IsRouting)
    (hkept : ∀ reason, .lose reason ∉ operations) :
    ∀ outcome ∈ session.outcomes operations, outcome.result = .ok () := by
  induction operations generalizing session with
  | nil =>
      intro outcome houtcome
      cases houtcome
  | cons operation rest ih =>
      have hfirst : (session.perform operation).2.result = .ok () ∧
          (session.perform operation).1.IsLive := by
        cases operation with
        | subscribe topic handler => exact hlive.subscribe topic handler
        | receive event =>
            cases event with
            | text text => exact ⟨rfl, by rw [perform_text]; exact hlive⟩
            | _ => exact (hrouting _ List.mem_cons_self).elim
        | lose reason => exact absurd List.mem_cons_self (hkept reason)
        | send destination payload => exact (hrouting _ List.mem_cons_self).elim
        | disconnect => exact (hrouting _ List.mem_cons_self).elim
      intro outcome houtcome
      rcases List.mem_cons.1 houtcome with rfl | hlater
      · exact hfirst.1
      · apply ih hfirst.2 _ _ outcome hlater
        · intro other hother
          exact hrouting other (List.mem_cons_of_mem _ hother)
        · intro reason hother
          exact hkept reason (List.mem_cons_of_mem _ hother)

/-! ## Routing -/

/-- In a run of subscriptions that succeed and of texts every operation has its own outcome. A text
invokes a handler exactly when it is a message for a topic that was subscribed before it. The
handler is the one that was registered last for that topic; it is given the channel of the session,
the topic and the body of the message. -/
theorem outcomes_deliver_latest {config : Config} {channel : Channel} {attempt : Attempt}
    {session : Session Handler} {log : List WireEvent}
    (hopened : connect config channel attempt = (.ok session, log))
    (operations : List (Operation Handler))
    (hrouting : ∀ operation ∈ operations, operation.IsRouting)
    (hgranted : ∀ outcome ∈ session.outcomes operations, outcome.result = .ok ())
    (hfew : (registrations operations).topics.length < 2 ^ 32) :
    (session.outcomes operations).length = operations.length ∧
      ∀ earlier operation later, operations = earlier ++ operation :: later →
        ∃ outcome, (session.outcomes operations)[earlier.length]? = some outcome ∧
          (∀ text frame topic, operation = .receive (.text text) →
            Frame.parse text = .ok (some frame) → frame.command = .message →
            IsTarget (registrations earlier).topics frame topic →
            ∃ handler, (registrations earlier).latest? topic = some handler ∧
              outcome.delivered = some (handler, { channel, topic, body := frame.body })) ∧
          (∀ delivery, outcome.delivered = some delivery →
            ∃ text frame topic, operation = .receive (.text text) ∧
              Frame.parse text = .ok (some frame) ∧ frame.command = .message ∧
              IsTarget (registrations earlier).topics frame topic) := by
  refine ⟨length_outcomes session operations, ?_⟩
  rintro earlier operation later rfl
  refine ⟨_, getElem?_outcomes session earlier later operation, ?_⟩
  have hstart : session.Follows channel [] := by
    rw [eq_of_connect hopened]
    exact ⟨rfl, rfl, Subscriptions.records_empty⟩
  have hreached : (session.after earlier).Follows channel (registrations earlier) := by
    apply hstart.after
    · intro other hother
      exact hrouting other (List.mem_append_left _ hother)
    · intro outcome houtcome
      apply hgranted outcome
      rw [outcomes_append]
      exact List.mem_append_left _ houtcome
    · rw [registrations, List.filterMap_append] at hfew
      exact Nat.lt_of_le_of_lt (Registrations.topics_length_le _ _) hfew
  constructor
  · rintro text frame topic rfl hparse hcommand htarget
    obtain ⟨handler, hlatest⟩ :=
      Option.isSome_iff_exists.1 (Registrations.isSome_latest?.2 htarget.mem_topics)
    refine ⟨handler, hlatest, ?_⟩
    rw [delivered_of_parse hreached.reading hparse, deliver?_eq_some]
    exact ⟨hcommand, (hreached.recorded.handlerFor?_eq_some frame topic handler).2
      ⟨htarget, hlatest⟩, by rw [hreached.on_channel]⟩
  · rintro ⟨handler, message⟩ hdelivered
    obtain ⟨text, frame, hoperation, hparse, hdeliver⟩ := delivered_eq_some hdelivered
    obtain ⟨hcommand, hfound, _⟩ := deliver?_eq_some.1 hdeliver
    have htarget := (hreached.recorded.handlerFor?_eq_some frame _ _).1 hfound
    exact ⟨text, frame, message.topic, hoperation, hparse, hcommand, htarget.1⟩

/-- A message with the id of a first topic and the destination of a second goes to the handler that
was registered again for the first. -/
theorem outcomes_deliver_latest_of_forged_destination :
    let message : Frame :=
      { Frame.bare .message [("subscription", "sub-0"), ("destination", "/b")] with body := "hi" }
    let session : Session Nat := { channel := .control }
    let operations : List (Operation Nat) :=
      [.subscribe "/a" 1, .subscribe "/b" 2, .subscribe "/a" 3, .receive (.text message.encode)]
    (∃ log, connect localConfig .control (.accepted [.text (Frame.bare .connected []).encode]) =
        (.ok session, log)) ∧
      ∃ outcome, (session.outcomes operations)[3]? = some outcome ∧
        outcome.delivered = some (3, { channel := .control, topic := "/a", body := "hi" }) := by
  intro message session operations
  obtain ⟨url, hurl⟩ := exists_channelUrl_localConfig .control
  have hopened : connect localConfig .control _ = (.ok session, _) := connect_of_granted hurl
  refine ⟨⟨_, hopened⟩, ?_⟩
  have hlive : session.IsLive := ⟨rfl, rfl, rfl⟩
  have hrouting : ∀ operation ∈ operations, operation.IsRouting := by
    simp [operations, Operation.IsRouting]
  have hgranted := hlive.result_eq_ok hrouting (by simp [operations])
  have hwritable : message.IsWritable := {
    length_agrees := by
      rintro value ⟨⟩
    headers_plain := by
      rintro (hcommand | hcommand) <;> cases hcommand }
  have hmessage := hwritable.parse_encode (by decide)
  have hfew : (registrations operations).topics.length = 2 := by decide
  obtain ⟨_, hall⟩ := outcomes_deliver_latest hopened operations hrouting hgranted (by omega)
  obtain ⟨outcome, houtcome, hinvokes, _⟩ := hall (operations.take 3) _ [] rfl
  have hid : message.sized.header? "subscription" = some s!"sub-{0}" := by decide
  have htarget : IsTarget (registrations (operations.take 3)).topics message.sized "/a" :=
    .named hid (by decide)
  obtain ⟨handler, hlatest, hdelivered⟩ := hinvokes _ _ "/a" rfl hmessage rfl htarget
  cases hlatest
  exact ⟨outcome, houtcome, hdelivered⟩

end Session

end ClassroomClient
