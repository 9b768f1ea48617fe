/-
# How an attempt to connect ends

An accepted attempt is decided by the first event that says anything about it. A frame that grants
the connection opens the session; an error frame, a text that is no frame, the end of the connection
and a failure to read refuse it, each for its own reason. Whatever comes before is idle. Whatever
comes behind the grant belongs to the session, which has no subscriptions yet and so hands none of
it to anyone.
-/

import ClassroomClient.Proofs.Session.Routing
import ClassroomClient.Proofs.Session.Wire
import Mathlib.Data.List.Induction

namespace ClassroomClient

open Stomp

/-! ## First headers -/

/-- The value of a name is that of the first header with the name. -/
theorem Stomp.Frame.header?_eq_some {frame : Frame} {name value : String} :
    frame.header? name = some value ↔
      ∃ before after, frame.headers = before ++ ⟨name, value⟩ :: after ∧
        ∀ header ∈ before, header.name ≠ name := by
  rw [Frame.header?, lookup?, Option.map_eq_some_iff]
  constructor
  · rintro ⟨header, hfind, rfl⟩
    obtain ⟨hname, before, after, hheaders, hbefore⟩ := List.find?_eq_some_iff_append.1 hfind
    obtain rfl : header.name = name := by simpa using hname
    exact ⟨before, after, hheaders, fun other hmem => by simpa using hbefore other hmem⟩
  · rintro ⟨before, after, hheaders, hbefore⟩
    refine ⟨⟨name, value⟩, List.find?_eq_some_iff_append.2 ⟨by simp, before, after, hheaders, ?_⟩,
      rfl⟩
    intro other hmem
    simpa using hbefore other hmem

theorem Stomp.Frame.header?_eq_none {frame : Frame} {name : String} :
    frame.header? name = none ↔ ∀ header ∈ frame.headers, header.name ≠ name := by
  simp [Frame.header?, lookup?]

/-! ## Events that decide and events that do not -/

/-- Events that say nothing about an attempt to connect: heart-beats, data that is no text, and
frames of any command but two. -/
inductive SocketEvent.IsIdle : SocketEvent → Prop
  | binary : IsIdle .binary
  | ping : IsIdle .ping
  | heartBeat {text : String} (hparse : Frame.parse text = .ok none) : IsIdle (.text text)
  | frame {text : String} {frame : Frame} (hparse : Frame.parse text = .ok (some frame))
      (hconnected : frame.command ≠ .connected) (herror : frame.command ≠ .error) :
      IsIdle (.text text)

/-- The event that grants a connection. -/
inductive SocketEvent.Grants : SocketEvent → Prop
  | connected {text : String} {frame : Frame} (hparse : Frame.parse text = .ok (some frame))
      (hcommand : frame.command = .connected) : Grants (.text text)

/-- The events that refuse a connection, with the error that they lead to. The reason of an error
frame is the value of its first header of that name or, without such a header, its body. -/
inductive SocketEvent.Refuses (channel : Channel) : SocketEvent → SessionError → Prop
  | unreadable {text : String} {error : FrameError} (hparse : Frame.parse text = .error error) :
      Refuses channel (.text text) (.frame error)
  | header {text : String} {frame : Frame} {before after : List Header} {reason : String}
      (hparse : Frame.parse text = .ok (some frame)) (hcommand : frame.command = .error)
      (hheaders : frame.headers = before ++ ⟨"message", reason⟩ :: after)
      (hfirst : ∀ header ∈ before, header.name ≠ "message") :
      Refuses channel (.text text) (.handshake channel reason)
  | body {text : String} {frame : Frame} (hparse : Frame.parse text = .ok (some frame))
      (hcommand : frame.command = .error)
      (hnone : ∀ header ∈ frame.headers, header.name ≠ "message") :
      Refuses channel (.text text) (.handshake channel frame.body)
  | close : Refuses channel .close (.handshake channel "connection closed before CONNECTED")
  | broken (reason : String) : Refuses channel (.broken reason) (.transport channel reason)

namespace SocketEvent

/-- Every event is idle, or it decides in one way. -/
theorem isIdle_or_grants_or_refuses (channel : Channel) (event : SocketEvent) :
    event.IsIdle ∨ event.Grants ∨ ∃ error, event.Refuses channel error := by
  cases event with
  | binary => exact .inl .binary
  | ping => exact .inl .ping
  | close => exact .inr (.inr ⟨_, .close⟩)
  | broken reason => exact .inr (.inr ⟨_, .broken reason⟩)
  | text text =>
      cases hparse : Frame.parse text with
      | error error => exact .inr (.inr ⟨_, .unreadable hparse⟩)
      | ok frame? =>
          cases frame? with
          | none => exact .inl (.heartBeat hparse)
          | some frame =>
              by_cases hconnected : frame.command = .connected
              · exact .inr (.inl (.connected hparse hconnected))
              · by_cases herror : frame.command = .error
                · cases hreason : frame.header? "message" with
                  | some reason =>
                      obtain ⟨_, _, hheaders, hfirst⟩ := Frame.header?_eq_some.1 hreason
                      exact .inr (.inr ⟨_, .header hparse herror hheaders hfirst⟩)
                  | none =>
                      exact .inr (.inr ⟨_, .body hparse herror (Frame.header?_eq_none.1 hreason)⟩)
                · exact .inl (.frame hparse hconnected herror)

end SocketEvent

namespace Session

variable {Handler : Type}

/-! ## Waiting for the answer -/

theorem awaitAnswer_of_isIdle (channel : Channel) {event : SocketEvent} (hidle : event.IsIdle)
    (rest : List SocketEvent) :
    awaitAnswer channel (event :: rest) = awaitAnswer channel rest := by
  cases hidle with
  | binary => rfl
  | ping => rfl
  | heartBeat hparse => simp only [awaitAnswer, hparse]
  | frame hparse hconnected herror =>
      simp only [awaitAnswer, hparse]

/-- Idle events are waited out, however many they are. -/
theorem awaitAnswer_append (channel : Channel) {before : List SocketEvent}
    (hidle : ∀ event ∈ before, event.IsIdle) (rest : List SocketEvent) :
    awaitAnswer channel (before ++ rest) = awaitAnswer channel rest := by
  induction before with
  | nil => rfl
  | cons event before ih =>
      rw [List.cons_append, awaitAnswer_of_isIdle channel (hidle event List.mem_cons_self),
        ih fun other hmem => hidle other (List.mem_cons_of_mem _ hmem)]

theorem awaitAnswer_of_grants (channel : Channel) {event : SocketEvent} (hgrants : event.Grants)
    (rest : List SocketEvent) : awaitAnswer channel (event :: rest) = .ok rest := by
  cases hgrants with
  | connected hparse hcommand => simp only [awaitAnswer, hparse, hcommand]

theorem awaitAnswer_of_refuses {channel : Channel} {event : SocketEvent} {error : SessionError}
    (hrefuses : event.Refuses channel error) (rest : List SocketEvent) :
    awaitAnswer channel (event :: rest) = .error error := by
  cases hrefuses with
  | unreadable hparse => simp only [awaitAnswer, hparse]
  | @header text frame before after reason hparse hcommand hheaders hfirst =>
      have hreason := Frame.header?_eq_some.2 ⟨before, after, hheaders, hfirst⟩
      simp only [awaitAnswer, hparse, hcommand, hreason, Option.getD_some]
  | @body text frame hparse hcommand hnone =>
      have hreason := Frame.header?_eq_none.2 hnone
      simp only [awaitAnswer, hparse, hcommand, hreason, Option.getD_none]
  | close => rfl
  | broken reason => rfl

/-! ## Handlers and their registrations -/

/-- What comes in early is a run of the session like any other. -/
theorem receiveEarly_eq_after (session : Session Handler) (events : List SocketEvent) :
    session.receiveEarly events = session.after (events.map .receive) := by
  rw [receiveEarly, after, List.foldl_map]
  rfl

theorem subscribe_mem_of_after {session : Session Handler}
    (hunsubscribed : session.subscriptions = {}) {operations : List (Operation Handler)}
    {topic : String} {handler : Handler}
    (hfind : (session.after operations).subscriptions.handlers.find? topic = some handler) :
    .subscribe topic handler ∈ operations := by
  induction operations using List.reverseRecOn with
  | nil =>
      rw [after_nil, hunsubscribed] at hfind
      cases hfind
  | append_singleton operations last ih =>
      rw [after_append] at hfind
      rcases find?_of_perform hfind with hbefore | rfl
      · exact List.mem_append_left _ (ih hbefore)
      · exact List.mem_append_right _ (List.mem_singleton_self _)

/-- On a session that starts without subscriptions, what an operation delivers is the message that
comes in with it, and its handler was registered before. -/
theorem subscribe_mem_of_delivered {session : Session Handler}
    (hunsubscribed : session.subscriptions = {}) {earlier : List (Operation Handler)}
    {operation : Operation Handler} {handler : Handler} {message : Inbound}
    (hdelivered : ((session.after earlier).perform operation).2.delivered =
      some (handler, message)) :
    .subscribe message.topic handler ∈ earlier ∧
      ∃ text frame, operation = .receive (.text text) ∧ Frame.parse text = .ok (some frame) ∧
        frame.command = .message ∧ frame.body = message.body := by
  obtain ⟨text, frame, hoperation, hparse, hdeliver⟩ := delivered_eq_some hdelivered
  obtain ⟨hcommand, hfound, hmessage⟩ := deliver?_eq_some.1 hdeliver
  refine ⟨subscribe_mem_of_after hunsubscribed ?_, text, frame, hoperation, hparse, hcommand, ?_⟩
  · exact Subscriptions.find?_of_handlerFor? hfound
  · rw [hmessage]

/-! ## The end of an attempt -/

/-- Without subscriptions nothing that comes in is handed to anyone. -/
theorem delivered_eq_none_of_unsubscribed {session : Session Handler}
    (hunsubscribed : session.subscriptions = {}) (events : List SocketEvent) :
    ∀ outcome ∈ session.outcomes (events.map .receive), outcome.delivered = none := by
  induction events generalizing session with
  | nil => exact nofun
  | cons event events ih =>
      have hkept : (session.perform (.receive event)).1.subscriptions = {} := by
        rcases session.receive_eq event with hsame | ⟨_, hended⟩
        · rw [perform_receive, hsame, hunsubscribed]
        · rw [perform_receive, hended, hunsubscribed]
      rw [List.map_cons, outcomes]
      refine List.forall_mem_cons.2 ⟨?_, ih hkept⟩
      cases hdelivered : (session.perform (.receive event)).2.delivered with
      | none => rfl
      | some delivery =>
          have hmem := (@subscribe_mem_of_delivered _ _ hunsubscribed [] _ _ _ hdelivered).1
          exact absurd hmem List.not_mem_nil

theorem connect_accepted_of_error {config : Config} {channel : Channel} {url : Url}
    (hurl : config.channelUrl channel = .ok url) {events : List SocketEvent} {error : SessionError}
    (hanswer : awaitAnswer channel events = .error error) :
    @connect Handler config channel (.accepted events) =
      (.error error, [.opened, .text (connectFrame (hostName url)).encode]) := by
  simp only [connect, hurl, hanswer]

theorem connect_accepted_of_ok {config : Config} {channel : Channel} {url : Url}
    (hurl : config.channelUrl channel = .ok url) {events rest : List SocketEvent}
    (hanswer : awaitAnswer channel events = .ok rest) :
    @connect Handler config channel (.accepted events) =
      (.ok { channel }, [.opened, .text (connectFrame (hostName url)).encode]) := by
  simp only [connect, hurl, hanswer]

/-- What an event that decides leads to does not depend on the idle events before it nor on anything
behind it. -/
theorem connect_accepted_eq (config : Config) {channel : Channel} {event : SocketEvent}
    (hdecides : event.Grants ∨ ∃ error, event.Refuses channel error)
    {before other : List SocketEvent} (hbefore : ∀ event ∈ before, event.IsIdle)
    (hother : ∀ event ∈ other, event.IsIdle) (after later : List SocketEvent) :
    @connect Handler config channel (.accepted (before ++ event :: after)) =
      connect config channel (.accepted (other ++ event :: later)) := by
  cases hurl : config.channelUrl channel with
  | error error => simp only [connect, hurl]
  | ok url =>
      have hfirst := awaitAnswer_append channel hbefore (event :: after)
      have hsecond := awaitAnswer_append channel hother (event :: later)
      rcases hdecides with hgrants | ⟨error, hrefuses⟩
      · rw [awaitAnswer_of_grants channel hgrants] at hfirst hsecond
        rw [connect_accepted_of_ok hurl hfirst, connect_accepted_of_ok hurl hsecond]
      · rw [awaitAnswer_of_refuses hrefuses] at hfirst hsecond
        rw [connect_accepted_of_error hurl hfirst, connect_accepted_of_error hurl hsecond]

/-- An accepted attempt to connect is decided by its first event that is not idle, whatever idle
events come before it and whatever comes behind it. A refusal gives its error, and so do idle events
alone, since the connection has then ended too early. A grant opens a connected session without
subscriptions. Nothing that comes in before the first of them is handed to anyone: when an operation
on the session delivers a message, the message came in with it, to a handler that had been
registered before. -/
theorem connect_of_first_decision {config : Config} {channel : Channel} {url : Url}
    (hurl : config.channelUrl channel = .ok url) (events : List SocketEvent) :
    let opened : Except SessionError (Session Handler) × List WireEvent :=
      connect config channel (.accepted events)
    opened.2 = [.opened, .text (connectFrame (hostName url)).encode] ∧
      ((∀ event ∈ events, event.IsIdle) →
        opened.1 = .error (.handshake channel "connection closed before CONNECTED")) ∧
      ∀ before event after, events = before ++ event :: after →
        (∀ other ∈ before, other.IsIdle) →
          (event.IsIdle ∨ event.Grants ∨ ∃ error, event.Refuses channel error) ∧
          (event.Grants ∨ (∃ error, event.Refuses channel error) →
            ∀ others later, (∀ other ∈ others, other.IsIdle) →
              connect config channel (.accepted (others ++ event :: later)) = opened) ∧
          (∀ error, event.Refuses channel error → opened.1 = .error error) ∧
          (event.Grants → ∃ session, opened.1 = .ok session ∧ session.channel = channel ∧
            session.isConnected = true ∧ session.subscriptions = {} ∧
            (∀ early : List SocketEvent, ∀ outcome ∈ session.outcomes (early.map .receive),
              outcome.delivered = none) ∧
            ∀ earlier operation later outcome handler message,
              (session.outcomes (earlier ++ operation :: later))[earlier.length]? = some outcome →
                outcome.delivered = some (handler, message) →
                  .subscribe message.topic handler ∈ earlier ∧
                    ∃ text frame, operation = .receive (.text text) ∧
                      Frame.parse text = .ok (some frame) ∧ frame.command = .message ∧
                      frame.body = message.body) := by
  intro opened
  refine ⟨?_, ?_, ?_⟩
  · cases hanswer : awaitAnswer channel events with
    | error error => exact congrArg Prod.snd (connect_accepted_of_error hurl hanswer)
    | ok rest => exact congrArg Prod.snd (connect_accepted_of_ok hurl hanswer)
  · intro hidle
    have hend : awaitAnswer channel events = .error (.handshake channel closedTooEarly) := by
      have hwait := awaitAnswer_append channel hidle []
      rwa [List.append_nil] at hwait
    exact congrArg Prod.fst (connect_accepted_of_error hurl hend)
  · rintro before event after rfl hidle
    have hwait := awaitAnswer_append channel hidle (event :: after)
    refine ⟨event.isIdle_or_grants_or_refuses channel, ?_, ?_, ?_⟩
    · intro hdecides others later hothers
      exact connect_accepted_eq config hdecides hothers hidle later after
    · intro error hrefuses
      rw [awaitAnswer_of_refuses hrefuses] at hwait
      exact congrArg Prod.fst (connect_accepted_of_error hurl hwait)
    · intro hgrants
      rw [awaitAnswer_of_grants channel hgrants] at hwait
      have hopened : opened.1 = .ok { channel } :=
        congrArg Prod.fst (connect_accepted_of_ok hurl hwait)
      refine ⟨{ channel }, hopened, rfl, rfl, rfl, delivered_eq_none_of_unsubscribed rfl, ?_⟩
      intro earlier operation later outcome handler message houtcome hdelivered
      rw [getElem?_outcomes] at houtcome
      cases houtcome
      exact subscribe_mem_of_delivered rfl hdelivered

/-- A grant and a refusal with two reasons, in both orders and with a message in front: the first of
them decides, and with the first reason. -/
theorem connect_of_first_decision_opposed :
    let message : SocketEvent :=
      .text { Frame.bare .message [("destination", "/a")] with body := "early" }.encode
    let grant : SocketEvent := .text (Frame.bare .connected [("version", "1.2")]).encode
    let refusal : SocketEvent :=
      .text (Frame.bare .error [("message", "full"), ("message", "never")]).encode
    (∃ session : Session Nat, session.isConnected = true ∧
        (connect localConfig .control (.accepted [.ping, message, grant, message, refusal])).1 =
          .ok session) ∧
      (connect localConfig .control (.accepted [.ping, message, refusal, grant])).1 =
        (.error (.handshake .control "full") : Except SessionError (Session Nat)) := by
  intro message grant refusal
  obtain ⟨url, hurl⟩ := exists_channelUrl_localConfig .control
  have hmessage : message.IsIdle := by
    have hparse : Frame.parse { Frame.bare .message [("destination", "/a")] with
        body := "early" }.encode = .ok (some ({ Frame.bare .message [("destination", "/a")] with
          body := "early" } : Frame).sized) := by
      decide +kernel
    exact .frame hparse nofun nofun
  have hgrants : grant.Grants := by
    have hparse : Frame.parse (Frame.bare .connected [("version", "1.2")]).encode =
        .ok (some (Frame.bare .connected [("version", "1.2")])) := by
      decide +kernel
    exact .connected hparse rfl
  have hrefuses : refusal.Refuses .control (.handshake .control "full") := by
    have hparse :
        Frame.parse (Frame.bare .error [("message", "full"), ("message", "never")]).encode =
          .ok (some (Frame.bare .error [("message", "full"), ("message", "never")])) := by
      decide +kernel
    exact .header hparse rfl (List.nil_append _).symm nofun
  have hidle : ∀ other ∈ [SocketEvent.ping, message], other.IsIdle :=
    List.forall_mem_cons.2 ⟨.ping, List.forall_mem_singleton.2 hmessage⟩
  constructor
  · obtain ⟨-, -, hall⟩ := @connect_of_first_decision Nat _ _ _ hurl
      [.ping, message, grant, message, refusal]
    obtain ⟨-, -, -, hopens⟩ := hall [.ping, message] grant [message, refusal] rfl hidle
    obtain ⟨session, hopened, -, hconnected, -⟩ := hopens hgrants
    exact ⟨session, hconnected, hopened⟩
  · obtain ⟨-, -, hall⟩ := @connect_of_first_decision Nat _ _ _ hurl
      [.ping, message, refusal, grant]
    obtain ⟨-, -, herror, -⟩ := hall [.ping, message] refusal [grant] rfl hidle
    exact herror _ hrefuses

end Session

end ClassroomClient
