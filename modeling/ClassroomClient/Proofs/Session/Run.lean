/-
# Runs of one session

A run is a list of operations: what the client does with the session and what happens to its
connection, in any order. `outcomes` lists what every operation brought, one outcome for each, and
`after` is the session at the end. A run may be cut anywhere: its second part is a run of the
session that the first part leaves.

A session that was opened starts with empty tables. As long as it counts as connected and its
connection was not lost unnoticed, it is one that carries frames.
-/

import ClassroomClient.Proofs.Stomp.RoundTrip
import ClassroomClient.Session.Handshake

namespace ClassroomClient

open Stomp

theorem exists_of_isOk {ε α : Type} {result : Except ε α} (hok : result.isOk = true) :
    ∃ value, result = .ok value := by
  cases result with
  | ok value => exact ⟨value, rfl⟩
  | error error => cases hok

namespace Session

variable {Handler : Type}

/-- What is done with a session or happens to it. -/
inductive Operation (Handler : Type)
  | subscribe (topic : String) (handler : Handler)
  | send (destination payload : String)
  | disconnect
  | receive (event : SocketEvent)
  /-- Frames do not reach the server any more, which the session has not noticed. -/
  | lose (reason : String)

/-- What an operation brings: its result, what it writes and the handler that it invokes. -/
structure Outcome (Handler : Type) where
  result : Except SessionError Unit := .ok ()
  written : List WireEvent := []
  delivered : Option (Handler × Inbound) := none

/-- Performs one operation. -/
def perform (session : Session Handler) :
    Operation Handler → Session Handler × Outcome Handler
  | .subscribe topic handler =>
    let (session, result, written) := session.subscribe topic handler
    (session, { result, written })
  | .send destination payload =>
    let (session, result, written) := session.send destination payload
    (session, { result := result.mapError SessionError.ofSend, written })
  | .disconnect =>
    let (session, written) := session.disconnect
    (session, { written })
  | .receive event =>
    let (session, delivered) := session.receive event
    (session, { delivered })
  | .lose reason => (session.lose reason, {})

/-- The session after a run. -/
def after (session : Session Handler) (operations : List (Operation Handler)) :
    Session Handler :=
  operations.foldl (fun session operation => (session.perform operation).1) session

/-- What the operations of a run bring, in their order. -/
def outcomes (session : Session Handler) : List (Operation Handler) → List (Outcome Handler)
  | [] => []
  | operation :: rest =>
    (session.perform operation).2 :: outcomes (session.perform operation).1 rest

@[simp] theorem after_nil (session : Session Handler) : session.after [] = session := rfl

@[simp] theorem after_cons (session : Session Handler) (operation : Operation Handler)
    (rest : List (Operation Handler)) :
    session.after (operation :: rest) = (session.perform operation).1.after rest := rfl

theorem after_append (session : Session Handler) (earlier later : List (Operation Handler)) :
    session.after (earlier ++ later) = (session.after earlier).after later :=
  List.foldl_append

/-- The second part of a run is a run of the session that the first part leaves. -/
theorem outcomes_append (session : Session Handler) (earlier later : List (Operation Handler)) :
    session.outcomes (earlier ++ later) =
      session.outcomes earlier ++ (session.after earlier).outcomes later := by
  induction earlier generalizing session with
  | nil => rfl
  | cons operation rest ih =>
      rw [List.cons_append, outcomes, ih, outcomes, after_cons, List.cons_append]

@[simp] theorem length_outcomes (session : Session Handler)
    (operations : List (Operation Handler)) :
    (session.outcomes operations).length = operations.length := by
  induction operations generalizing session with
  | nil => rfl
  | cons operation rest ih => rw [outcomes, List.length_cons, ih, List.length_cons]

/-- The outcome of an operation is that of performing it after all operations before it. -/
theorem getElem?_outcomes (session : Session Handler) (earlier later : List (Operation Handler))
    (operation : Operation Handler) :
    (session.outcomes (earlier ++ operation :: later))[earlier.length]? =
      some ((session.after earlier).perform operation).2 := by
  have hbehind : (session.outcomes earlier).length ≤ earlier.length :=
    Nat.le_of_eq (length_outcomes session earlier)
  rw [outcomes_append, List.getElem?_append_right hbehind, length_outcomes, Nat.sub_self]
  rfl

/-! ## Single operations -/

theorem perform_subscribe (session : Session Handler) (topic : String) (handler : Handler) :
    session.perform (.subscribe topic handler) =
      ((session.subscribe topic handler).1,
        { result := (session.subscribe topic handler).2.1
          written := (session.subscribe topic handler).2.2 }) := rfl

theorem perform_send (session : Session Handler) (destination payload : String) :
    session.perform (.send destination payload) =
      ((session.send destination payload).1,
        { result := (session.send destination payload).2.1.mapError SessionError.ofSend
          written := (session.send destination payload).2.2 }) := rfl

theorem perform_disconnect (session : Session Handler) :
    session.perform .disconnect =
      (session.disconnect.1, { written := session.disconnect.2 }) := rfl

theorem perform_receive (session : Session Handler) (event : SocketEvent) :
    session.perform (.receive event) =
      ((session.receive event).1, { delivered := (session.receive event).2 }) := rfl

/-- Tearing down ends a session, with a farewell if the server can be reached. -/
theorem disconnect_of_writable {session : Session Handler} (hwritable : session.isWritable = true) :
    session.disconnect =
      ({ session with isConnected := false, isReading := false, isWritable := false },
        if session.fault.isNone then [.text disconnectFrame.encode, .closing] else []) := by
  simp [Session.disconnect, hwritable]

theorem disconnect_of_not_writable {session : Session Handler}
    (hclosed : session.isWritable = false) : session.disconnect = (session, []) := by
  simp [Session.disconnect, hclosed]

/-- What comes in leaves a session as it is unless it ends the connection. -/
theorem receive_eq (session : Session Handler) (event : SocketEvent) :
    (session.receive event).1 = session ∨
      ∃ reason, (session.receive event).1 =
        { session with isConnected := false, isReading := false, fault := some reason } := by
  unfold Session.receive
  split
  · exact .inl rfl
  · cases event with
    | text text =>
        left
        dsimp only
        split <;> rfl
    | binary => exact .inl rfl
    | ping => exact .inl rfl
    | close => exact .inr ⟨_, rfl⟩
    | broken reason => exact .inr ⟨reason, rfl⟩

/-- A frame that a connected session writes is on the wire, or it was the end of the session. -/
theorem write_of_writable {session : Session Handler} (hwritable : session.isWritable = true)
    (frame : Frame) :
    session.write frame = (session, .ok (), [.text frame.encode]) ∨
      ∃ reason, session.write frame =
        ({ session with isConnected := false }, .error (.transport session.channel reason),
          []) := by
  cases hfault : session.fault with
  | none => exact .inl (by simp [Session.write, hwritable, hfault])
  | some reason => exact .inr ⟨reason, by simp [Session.write, hwritable, hfault]⟩

/-- Writing may end a session but leaves its channel and its tables. -/
theorem kept_write (session : Session Handler) (frame : Frame) :
    (session.write frame).1.channel = session.channel ∧
      (session.write frame).1.subscriptions = session.subscriptions := by
  unfold Session.write
  split
  · exact ⟨rfl, rfl⟩
  · split <;> exact ⟨rfl, rfl⟩

theorem subscribe_of_not_connected {session : Session Handler}
    (hended : session.isConnected = false) (topic : String) (handler : Handler) :
    session.subscribe topic handler = (session, .error (.notConnected session.channel), []) := by
  simp [Session.subscribe, hended]

theorem send_of_not_connected {session : Session Handler} (hended : session.isConnected = false)
    (destination payload : String) :
    session.send destination payload = (session, .error (.notConnected session.channel), []) := by
  simp [Session.send, hended]

theorem send_of_connected {session : Session Handler} (hconnected : session.isConnected = true)
    (destination payload : String) :
    session.send destination payload = session.write (sendFrame destination payload) := by
  simp [Session.send, hconnected]

/-- A payload is sent as one frame, or nothing is written and an error says why. -/
theorem send_cases (session : Session Handler) (destination payload : String) :
    (session.send destination payload).2 =
        (.ok (), [.text (sendFrame destination payload).encode]) ∨
      ∃ error, (session.send destination payload).2 = (.error error, []) := by
  unfold Session.send
  split
  · exact .inr ⟨_, rfl⟩
  · unfold Session.write
    split
    · exact .inr ⟨_, rfl⟩
    · split
      · exact .inr ⟨_, rfl⟩
      · exact .inl rfl

/-- Subscribing again to a topic changes its handler and writes nothing. -/
theorem subscribe_of_contains {session : Session Handler} {topic : String}
    (hconnected : session.isConnected = true)
    (hold : session.subscriptions.handlers.contains topic = true) (handler : Handler) :
    session.subscribe topic handler =
      ({ session with subscriptions := (session.subscriptions.register topic handler).1 },
        .ok (), []) := by
  simp [Session.subscribe, Subscriptions.register, hconnected, hold]

/-- A new topic is registered and then written. -/
theorem subscribe_of_not_contains {session : Session Handler} {topic : String}
    (hconnected : session.isConnected = true)
    (hnew : session.subscriptions.handlers.contains topic = false) (handler : Handler) :
    let registered : Session Handler :=
      { session with subscriptions := (session.subscriptions.register topic handler).1 }
    let answer := registered.write
      (subscribeFrame (subscriptionId session.subscriptions.nextId) topic)
    session.subscribe topic handler =
      (answer.1, answer.2.1.mapError SessionError.ofSend, answer.2.2) := by
  simp [Session.subscribe, Subscriptions.register, hconnected, hnew]

/-- Nothing moves a session to another channel, and nothing but a subscription touches its
tables. -/
theorem kept_perform (session : Session Handler) (operation : Operation Handler) :
    (session.perform operation).1.channel = session.channel ∧
      ((session.perform operation).1.subscriptions = session.subscriptions ∨
        ∃ topic handler, operation = .subscribe topic handler ∧
          (session.perform operation).1.subscriptions =
            (session.subscriptions.register topic handler).1) := by
  cases operation with
  | subscribe topic handler =>
      rw [perform_subscribe]
      cases hconnected : session.isConnected with
      | false =>
          rw [subscribe_of_not_connected hconnected]
          exact ⟨rfl, .inl rfl⟩
      | true =>
          cases hcontains : session.subscriptions.handlers.contains topic with
          | true =>
              rw [subscribe_of_contains hconnected hcontains]
              exact ⟨rfl, .inr ⟨topic, handler, rfl, rfl⟩⟩
          | false =>
              rw [subscribe_of_not_contains hconnected hcontains]
              obtain ⟨hchannel, htables⟩ := kept_write
                { session with subscriptions := (session.subscriptions.register topic handler).1 }
                (subscribeFrame (subscriptionId session.subscriptions.nextId) topic)
              exact ⟨hchannel, .inr ⟨topic, handler, rfl, htables⟩⟩
  | send destination payload =>
      rw [perform_send]
      cases hconnected : session.isConnected with
      | false =>
          rw [send_of_not_connected hconnected]
          exact ⟨rfl, .inl rfl⟩
      | true =>
          rw [send_of_connected hconnected]
          obtain ⟨hchannel, htables⟩ := session.kept_write (sendFrame destination payload)
          exact ⟨hchannel, .inl htables⟩
  | disconnect =>
      rw [perform_disconnect]
      cases hwritable : session.isWritable with
      | true =>
          rw [disconnect_of_writable hwritable]
          exact ⟨rfl, .inl rfl⟩
      | false =>
          rw [disconnect_of_not_writable hwritable]
          exact ⟨rfl, .inl rfl⟩
  | receive event =>
      rw [perform_receive]
      rcases session.receive_eq event with hsame | ⟨reason, hbroken⟩
      · rw [hsame]
        exact ⟨rfl, .inl rfl⟩
      · rw [hbroken]
        exact ⟨rfl, .inl rfl⟩
  | lose reason => exact ⟨rfl, .inl rfl⟩

theorem channel_after (session : Session Handler) (operations : List (Operation Handler)) :
    (session.after operations).channel = session.channel := by
  induction operations generalizing session with
  | nil => rfl
  | cons operation rest ih => exact (ih _).trans (session.kept_perform operation).1

/-! ## Sessions that were opened -/

/-- A session on which nothing was done yet. -/
structure IsFresh (channel : Channel) (session : Session Handler) : Prop where
  on_channel : session.channel = channel
  unsubscribed : session.subscriptions = {}
  writable : session.isWritable = true
  reading : session.isConnected = true → session.isReading = true
  reached : session.isConnected = true → session.fault = none

theorem IsFresh.receive {channel : Channel} {session : Session Handler}
    (hfresh : session.IsFresh channel) (event : SocketEvent) :
    (session.receive event).1.IsFresh channel := by
  rcases session.receive_eq event with hsame | ⟨reason, hbroken⟩
  · rw [hsame]
    exact hfresh
  · rw [hbroken]
    refine ⟨hfresh.on_channel, hfresh.unsubscribed, hfresh.writable, ?_, ?_⟩
    · intro hconnected
      cases hconnected
    · intro hconnected
      cases hconnected

/-- What comes in between the answer of the server and the first operation leaves no trace but
the end of the connection. -/
theorem IsFresh.receiveEarly {channel : Channel} {session : Session Handler}
    (hfresh : session.IsFresh channel) (events : List SocketEvent) :
    (session.receiveEarly events).IsFresh channel := by
  induction events generalizing session with
  | nil => exact hfresh
  | cons event rest ih => exact ih (hfresh.receive event)

/-- A session that was opened is connected and new. -/
theorem eq_of_connect {config : Config} {channel : Channel} {attempt : Attempt}
    {session : Session Handler} {log : List WireEvent}
    (hopened : connect config channel attempt = (.ok session, log)) : session = { channel } := by
  unfold connect at hopened
  split at hopened
  · cases hopened
  · split at hopened
    · cases hopened
    · cases hopened
    · dsimp only at hopened
      split at hopened
      · cases hopened
      · cases hopened
        rfl

theorem isFresh_of_connect {config : Config} {channel : Channel} {attempt : Attempt}
    {session : Session Handler} {log : List WireEvent}
    (hopened : connect config channel attempt = (.ok session, log)) :
    session.IsFresh channel := by
  rw [eq_of_connect hopened]
  exact ⟨rfl, rfl, rfl, fun _ => rfl, fun _ => rfl⟩

/-- A session that was opened has said nothing but the handshake. -/
theorem url_of_connect {config : Config} {channel : Channel} {attempt : Attempt}
    {session : Session Handler} {log : List WireEvent}
    (hopened : connect config channel attempt = (.ok session, log)) :
    ∃ url, config.channelUrl channel = .ok url ∧
      log = [.opened, .text (connectFrame (hostName url)).encode] := by
  unfold connect at hopened
  split at hopened
  · cases hopened
  · next url hurl =>
    split at hopened
    · cases hopened
    · cases hopened
    · dsimp only at hopened
      split at hopened
      · cases hopened
      · cases hopened
        exact ⟨url, hurl, rfl⟩

/-- A server that grants the connection and sends nothing else opens a session. -/
theorem connect_of_granted {config : Config} {channel : Channel} {url : Url}
    (hurl : config.channelUrl channel = .ok url) :
    connect config channel (.accepted [.text (Frame.bare .connected []).encode]) =
      (.ok ({ channel } : Session Handler),
        [.opened, .text (connectFrame (hostName url)).encode]) := by
  have hwritable : (Frame.bare .connected []).IsWritable := {
    length_agrees := by
      rintro value ⟨⟩
    headers_plain := by
      intro _ header hmem
      cases hmem }
  have hparse : Frame.parse (Frame.bare .connected []).encode =
      .ok (some (Frame.bare .connected [])) := hwritable.parse_encode (by decide)
  simp only [connect, hurl, awaitAnswer, hparse]
  rfl

/-- A configuration for a server on the same machine, without files and rankings. -/
def localConfig : Config where
  baseUrl :=
    { scheme := "http".toList
      authority := some
        { username := [], password := [], host := .domain "localhost".toList, port := none }
      path := .segments [[]], query := none, fragment := none }
  onWeb := rfl
  team := "team1"
  rankingsPath := none
  files := []

theorem exists_channelUrl_localConfig (channel : Channel) :
    ∃ url, localConfig.channelUrl channel = .ok url := by
  apply exists_of_isOk
  cases channel <;> decide +kernel

/-! ## Sessions that carry frames -/

/-- A session that is connected to a server which can be reached. -/
structure IsLive (session : Session Handler) : Prop where
  connected : session.isConnected = true
  writable : session.isWritable = true
  reached : session.fault = none

theorem IsLive.write {session : Session Handler} (hlive : session.IsLive) (frame : Frame) :
    session.write frame = (session, .ok (), [.text frame.encode]) := by
  simp [Session.write, hlive.writable, hlive.reached]

theorem IsLive.send {session : Session Handler} (hlive : session.IsLive)
    (destination payload : String) :
    session.send destination payload =
      (session, .ok (), [.text (sendFrame destination payload).encode]) := by
  rw [Session.send, hlive.write]
  simp [hlive.connected]

/-- On a live session every subscription succeeds, and the session stays live. -/
theorem IsLive.subscribe {session : Session Handler} (hlive : session.IsLive) (topic : String)
    (handler : Handler) :
    (session.subscribe topic handler).2.1 = .ok () ∧
      (session.subscribe topic handler).1.IsLive := by
  obtain ⟨hconnected, hwritable, hreached⟩ := hlive
  have hregistered : IsLive { session with
      subscriptions := (session.subscriptions.register topic handler).1 } :=
    ⟨hconnected, hwritable, hreached⟩
  have hopen : ¬ (!session.isConnected) = true := by simp [hconnected]
  unfold Session.subscribe
  rw [if_neg hopen]
  dsimp only
  split
  · exact ⟨rfl, hregistered⟩
  · rw [hregistered.write]
    exact ⟨rfl, hregistered⟩

/-- A session that counts as connected carries frames. -/
def IsLiveIfConnected (session : Session Handler) : Prop :=
  session.isConnected = true → session.IsLive

theorem IsFresh.isLiveIfConnected {channel : Channel} {session : Session Handler}
    (hfresh : session.IsFresh channel) : session.IsLiveIfConnected := by
  intro hconnected
  exact ⟨hconnected, hfresh.writable, hfresh.reached hconnected⟩

theorem isLiveIfConnected_of_not_connected {session : Session Handler}
    (hended : session.isConnected = false) : session.IsLiveIfConnected := by
  intro hconnected
  rw [hended] at hconnected
  cases hconnected

theorem IsLiveIfConnected.write {session : Session Handler} (hlive : session.IsLiveIfConnected)
    (frame : Frame) : (session.write frame).1.IsLiveIfConnected := by
  unfold Session.write
  split
  · exact hlive
  · split
    · exact isLiveIfConnected_of_not_connected rfl
    · exact hlive

theorem IsLiveIfConnected.subscribe {session : Session Handler} (hlive : session.IsLiveIfConnected)
    (topic : String) (handler : Handler) :
    (session.subscribe topic handler).1.IsLiveIfConnected := by
  have hregistered : IsLiveIfConnected { session with
      subscriptions := (session.subscriptions.register topic handler).1 } := by
    intro hconnected
    obtain ⟨hconnected, hwritable, hreached⟩ := hlive hconnected
    exact ⟨hconnected, hwritable, hreached⟩
  unfold Session.subscribe
  split
  · exact hlive
  · dsimp only
    split
    · exact hregistered
    · exact hregistered.write _

theorem IsLiveIfConnected.receive {session : Session Handler} (hlive : session.IsLiveIfConnected)
    (event : SocketEvent) : (session.receive event).1.IsLiveIfConnected := by
  rcases session.receive_eq event with hsame | ⟨reason, hbroken⟩
  · rw [hsame]
    exact hlive
  · rw [hbroken]
    exact isLiveIfConnected_of_not_connected rfl

/-- Only an unnoticed loss leaves a session connected that carries no frames. -/
theorem IsLiveIfConnected.perform {session : Session Handler} (hlive : session.IsLiveIfConnected)
    {operation : Operation Handler} (hkept : ∀ reason, operation ≠ .lose reason) :
    (session.perform operation).1.IsLiveIfConnected := by
  cases operation with
  | subscribe topic handler => exact hlive.subscribe topic handler
  | send destination payload =>
      change (session.send destination payload).1.IsLiveIfConnected
      unfold Session.send
      split
      · exact hlive
      · exact hlive.write _
  | disconnect =>
      change session.disconnect.1.IsLiveIfConnected
      unfold Session.disconnect
      split
      · exact hlive
      · exact isLiveIfConnected_of_not_connected rfl
  | receive event => exact hlive.receive event
  | lose reason => exact absurd rfl (hkept reason)

theorem IsLiveIfConnected.after {session : Session Handler} (hlive : session.IsLiveIfConnected)
    {operations : List (Operation Handler)}
    (hkept : ∀ operation ∈ operations, ∀ reason, operation ≠ .lose reason) :
    (session.after operations).IsLiveIfConnected := by
  induction operations generalizing session with
  | nil => exact hlive
  | cons operation rest ih =>
      apply ih (hlive.perform (hkept operation List.mem_cons_self))
      intro other hother
      exact hkept other (List.mem_cons_of_mem _ hother)

end Session

end ClassroomClient
