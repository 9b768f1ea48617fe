/-
# Sessions that are lent out

Whoever is lent a session can do everything with it but tear it down. Such a session writes
subscriptions and payloads and never a farewell, and it reaches the server until the connection
ends: by what comes in, or unnoticed. That starts with the attempt that opened the session, since
what the server sends behind its grant is taken in like anything else.
-/

import ClassroomClient.Proofs.Session.Handshake

namespace ClassroomClient

open Stomp

variable {Handler : Type}

/-- What happens on the connections of a channel. -/
inductive LinkEvent
  | wrote (event : WireEvent)
  | came (event : SocketEvent)
  /-- From now on the server is not reached, which the client has not noticed. -/
  | lost
  /-- The client gives up a connection that was not granted. -/
  | abandoned
  deriving DecidableEq

/-- Whether the event is the end of a connection. -/
def LinkEvent.ends : LinkEvent → Bool
  | .wrote .closing | .came .close | .came (.broken _) | .lost | .abandoned => true
  | _ => false

/-- What comes in on a connection that is accepted. -/
def Attempt.events : Attempt → List SocketEvent
  | accepted events => events
  | _ => []

/-- What comes in is the end of a connection when it is closed or broken. -/
theorem ends_came_eq_false (event : SocketEvent) :
    (LinkEvent.came event).ends = false ↔
      event ≠ .close ∧ ∀ reason, event ≠ .broken reason := by
  cases event <;> simp [LinkEvent.ends]

/-! ## Sessions that are lent out -/

namespace Session

/-- What can be done with a session that somebody else holds: everything but tearing it down. -/
def Operation.IsLent : Operation Handler → Prop
  | .disconnect => False
  | _ => True

/-- What happens on the connection of a session beside what the session writes. -/
def Operation.arrivals : Operation Handler → List LinkEvent
  | .receive event => [.came event]
  | .lose _ => [.lost]
  | _ => []

theorem written_cons (session : Session Handler) (operation : Operation Handler)
    (rest : List (Operation Handler)) :
    session.written (operation :: rest) =
      (session.perform operation).2.written ++ (session.perform operation).1.written rest := by
  rw [written, outcomes, List.flatMap_cons]
  rfl

theorem written_singleton (session : Session Handler) (operation : Operation Handler) :
    session.written [operation] = (session.perform operation).2.written := by
  rw [written_cons]
  exact List.append_nil _

theorem written_append (session : Session Handler) (earlier later : List (Operation Handler)) :
    session.written (earlier ++ later) =
      session.written earlier ++ (session.after earlier).written later := by
  rw [written, outcomes_append, List.flatMap_append]
  rfl

/-- Writing leaves a session as it is, or it was the end of a session that is not reached. -/
theorem write_cases (session : Session Handler) (frame : Frame) :
    ((session.write frame).1 = session ∨
        session.fault ≠ none ∧ (session.write frame).1 = { session with isConnected := false }) ∧
      ((session.write frame).2.2 = [] ∨ (session.write frame).2.2 = [.text frame.encode]) := by
  unfold Session.write
  split
  · exact ⟨.inl rfl, .inl rfl⟩
  · split
    · next hfault => exact ⟨.inr ⟨by rw [hfault]; nofun, rfl⟩, .inl rfl⟩
    · exact ⟨.inl rfl, .inr rfl⟩

/-- Asking for something changes nothing about a session but its tables, and one frame is written at
most. A session that is not reached notices it then. -/
theorem perform_call (session : Session Handler) {operation : Operation Handler}
    (hcall : operation.call?.isSome) :
    (∃ subscriptions, (session.perform operation).1 = { session with subscriptions } ∨
      session.fault ≠ none ∧
        (session.perform operation).1 = { session with isConnected := false, subscriptions }) ∧
      ((session.perform operation).2.written = [] ∨
        ∃ frame : Frame, frame.command ≠ .disconnect ∧
          (session.perform operation).2.written = [.text frame.encode]) := by
  by_cases hconnected : session.isConnected = true
  · cases operation with
    | subscribe topic handler =>
        rw [perform_subscribe]
        by_cases hcontains : session.subscriptions.handlers.contains topic = true
        · rw [subscribe_of_contains hconnected hcontains]
          exact ⟨⟨_, .inl rfl⟩, .inl rfl⟩
        · rw [subscribe_of_not_contains hconnected (Bool.eq_false_iff.2 hcontains)]
          obtain ⟨hsession, hwritten⟩ := write_cases
            { session with subscriptions := (session.subscriptions.register topic handler).1 }
            (subscribeFrame (subscriptionId session.subscriptions.nextId) topic)
          exact ⟨⟨_, hsession⟩, hwritten.imp_right fun h => ⟨subscribeFrame _ topic, nofun, h⟩⟩
    | send destination payload =>
        rw [perform_send, send_of_connected hconnected]
        obtain ⟨hsession, hwritten⟩ := session.write_cases (sendFrame destination payload)
        exact ⟨⟨_, hsession⟩, hwritten.imp_right fun h => ⟨sendFrame destination payload, nofun, h⟩⟩
    | disconnect => cases hcall
    | receive event => cases hcall
    | lose reason => cases hcall
  · have hended := Bool.eq_false_iff.2 hconnected
    have hrefused := (perform_of_not_connected hended operation).2 hcall
    refine ⟨⟨session.subscriptions, .inl ?_⟩, .inl (by rw [hrefused])⟩
    cases operation with
    | subscribe topic handler => rw [perform_subscribe, subscribe_of_not_connected hended]
    | send destination payload => rw [perform_send, send_of_not_connected hended]
    | disconnect => cases hcall
    | receive event => cases hcall
    | lose reason => cases hcall

/-- A session that was not torn down. It counts as connected as long as the server is reached, and
it reads as long as it counts as connected. -/
structure IsHeld (session : Session Handler) : Prop where
  writable : session.isWritable = true
  connected : session.fault = none → session.isConnected = true
  reading : session.isConnected = true → session.isReading = true

/-- What comes in ends the connection once, and a session that has ended takes no notice. -/
theorem IsHeld.receive {session : Session Handler} (hheld : session.IsHeld) (event : SocketEvent) :
    (session.receive event).1.IsHeld ∧
      (session.receive event).1.fault.isNone =
        (session.fault.isNone && !(LinkEvent.came event).ends) := by
  have hkept (hsame : (session.receive event).1 = session)
      (hopen : (LinkEvent.came event).ends = false) :
      (session.receive event).1.IsHeld ∧ (session.receive event).1.fault.isNone =
        (session.fault.isNone && !(LinkEvent.came event).ends) := by
    rw [hsame, hopen]
    exact ⟨hheld, (Bool.and_true _).symm⟩
  by_cases hreading : session.isReading = true
  · cases event with
    | text text => exact hkept (session.perform_text text) rfl
    | binary => exact hkept (by simp [Session.receive]) rfl
    | ping => exact hkept (by simp [Session.receive]) rfl
    | close =>
        simp only [Session.receive, hreading]
        exact ⟨⟨hheld.writable, by simp, by simp⟩, (Bool.and_false _).symm⟩
    | broken reason =>
        simp only [Session.receive, hreading]
        exact ⟨⟨hheld.writable, by simp, by simp⟩, (Bool.and_false _).symm⟩
  · have hunreached : session.fault.isNone = false := by
      rw [Option.isNone_eq_false_iff, Option.isSome_iff_ne_none]
      exact fun hreached => hreading (hheld.reading (hheld.connected hreached))
    have hsame : (session.receive event).1 = session := by simp [Session.receive, hreading]
    rw [hsame, hunreached]
    exact ⟨hheld, (Bool.false_and _).symm⟩

/-- A session that is lent out stays one that was not torn down, and the server is reached until the
connection ends. -/
theorem IsHeld.perform {session : Session Handler} (hheld : session.IsHeld)
    {operation : Operation Handler} (hlent : operation.IsLent) :
    (session.perform operation).1.IsHeld ∧
      (session.perform operation).1.fault.isNone =
        (session.fault.isNone && !operation.arrivals.any LinkEvent.ends) := by
  have hasked (hcall : operation.call?.isSome) (hquiet : operation.arrivals = []) :
      (session.perform operation).1.IsHeld ∧
        (session.perform operation).1.fault.isNone =
          (session.fault.isNone && !operation.arrivals.any LinkEvent.ends) := by
    obtain ⟨⟨subscriptions, hsame | ⟨hfault, hended⟩⟩, -⟩ := session.perform_call hcall
    · rw [hsame, hquiet]
      exact ⟨⟨hheld.writable, hheld.connected, hheld.reading⟩, (Bool.and_true _).symm⟩
    · rw [hended, hquiet]
      exact ⟨⟨hheld.writable, fun hnone => absurd hnone hfault, nofun⟩, (Bool.and_true _).symm⟩
  cases operation with
  | subscribe topic handler => exact hasked rfl rfl
  | send destination payload => exact hasked rfl rfl
  | disconnect => cases hlent
  | lose reason =>
      change (session.lose reason).IsHeld ∧ false = _
      exact ⟨⟨hheld.writable, nofun, hheld.reading⟩, (Bool.and_false _).symm⟩
  | receive event =>
      obtain ⟨hreceived, hfault⟩ := hheld.receive event
      rw [perform_receive, Operation.arrivals, List.any_cons, List.any_nil, Bool.or_false]
      exact ⟨hreceived, hfault⟩

theorem IsHeld.after {session : Session Handler} (hheld : session.IsHeld)
    {operations : List (Operation Handler)} (hlent : ∀ operation ∈ operations, operation.IsLent) :
    (session.after operations).IsHeld ∧
      (session.after operations).fault.isNone =
        (session.fault.isNone && !(operations.flatMap Operation.arrivals).any LinkEvent.ends) := by
  induction operations generalizing session with
  | nil => exact ⟨hheld, (Bool.and_true _).symm⟩
  | cons operation rest ih =>
      obtain ⟨hnext, hfault⟩ := hheld.perform (hlent operation List.mem_cons_self)
      obtain ⟨hlast, hrest⟩ := ih hnext fun other hmem => hlent other (List.mem_cons_of_mem _ hmem)
      refine ⟨hlast, ?_⟩
      rw [after_cons, hrest, hfault, List.flatMap_cons, List.any_append, Bool.not_or,
        Bool.and_assoc]

/-- What comes in disconnects a session when it ends the connection. -/
theorem IsHeld.isConnected_receive {session : Session Handler} (hheld : session.IsHeld)
    (incoming : SocketEvent) :
    (session.receive incoming).1.isConnected = true ↔
      session.isConnected = true ∧ (LinkEvent.came incoming).ends = false := by
  by_cases hreading : session.isReading = true
  · cases incoming with
    | text text =>
        have hsame : (session.receive (.text text)).1 = session := session.perform_text text
        simp [hsame, LinkEvent.ends]
    | _ => simp [Session.receive, hreading, LinkEvent.ends]
  · have hended : ¬ session.isConnected = true := fun h => hreading (hheld.reading h)
    simp [Session.receive, hreading, hended]

/-- What comes in one after the other leaves a session connected when none of it ends the
connection. -/
theorem IsHeld.isConnected_receives {session : Session Handler} (hheld : session.IsHeld)
    (events : List SocketEvent) :
    (session.after (events.map .receive)).isConnected = true ↔
      session.isConnected = true ∧
        ∀ incoming ∈ events, (LinkEvent.came incoming).ends = false := by
  induction events generalizing session with
  | nil => simp
  | cons incoming rest ih =>
      have hlent : (Operation.receive incoming : Operation Handler).IsLent := trivial
      have hnext := (hheld.perform hlent).1
      rw [List.map_cons, after_cons, ih hnext, perform_receive, hheld.isConnected_receive,
        List.forall_mem_cons, and_assoc]

/-- What a session that is lent out writes are frames, and none of them is a farewell. -/
theorem written_of_isLent (session : Session Handler) {operations : List (Operation Handler)}
    (hlent : ∀ operation ∈ operations, operation.IsLent) :
    ∀ event ∈ session.written operations,
      ∃ frame : Frame, frame.command ≠ .disconnect ∧ event = .text frame.encode := by
  induction operations generalizing session with
  | nil => nofun
  | cons operation rest ih =>
      rw [written_cons, List.forall_mem_append]
      refine ⟨?_, ih _ fun other hmem => hlent other (List.mem_cons_of_mem _ hmem)⟩
      have hsilent : (session.perform operation).2.written = [] ∨
          ∃ frame : Frame, frame.command ≠ .disconnect ∧
            (session.perform operation).2.written = [.text frame.encode] := by
        have hfirst := hlent operation List.mem_cons_self
        cases operation with
        | subscribe topic handler => exact (session.perform_call rfl).2
        | send destination payload => exact (session.perform_call rfl).2
        | disconnect => cases hfirst
        | receive event => exact .inl rfl
        | lose reason => exact .inl rfl
      intro event hevent
      rcases hsilent with hnone | ⟨frame, hcommand, hone⟩
      · rw [hnone] at hevent
        cases hevent
      · rw [hone, List.mem_singleton] at hevent
        exact ⟨frame, hcommand, hevent⟩

/-! ## Sessions that were opened -/

/-- An answer that grants stands behind idle events only. -/
theorem exists_grant_of_awaitAnswer {channel : Channel} {events behind : List SocketEvent}
    (hgranted : awaitAnswer channel events = .ok behind) :
    ∃ before grant, events = before ++ grant :: behind ∧ (∀ event ∈ before, event.IsIdle) ∧
      grant.Grants := by
  induction events with
  | nil => cases hgranted
  | cons event rest ih =>
      rcases event.isIdle_or_grants_or_refuses channel with hidle | hgrants | ⟨error, hrefuses⟩
      · rw [awaitAnswer_of_isIdle channel hidle] at hgranted
        obtain ⟨before, grant, hrest, hbefore, hgrant⟩ := ih hgranted
        exact ⟨event :: before, grant, by rw [hrest, List.cons_append],
          List.forall_mem_cons.2 ⟨hidle, hbefore⟩, hgrant⟩
      · rw [awaitAnswer_of_grants channel hgrants] at hgranted
        cases hgranted
        exact ⟨[], event, rfl, nofun, hgrants⟩
      · rw [awaitAnswer_of_refuses hrefuses] at hgranted
        cases hgranted

/-- A session that was opened was granted, behind idle events. -/
theorem exists_grant_of_connect {config : Config} {channel : Channel} {attempt : Attempt}
    {session : Session Handler} {log : List WireEvent}
    (hopened : connect config channel attempt = (.ok session, log)) :
    ∃ before grant behind, attempt = .accepted (before ++ grant :: behind) ∧
      (∀ event ∈ before, event.IsIdle) ∧ grant.Grants ∧ attempt.behind channel = behind := by
  unfold connect at hopened
  split at hopened
  · cases hopened
  · split at hopened
    · cases hopened
    · cases hopened
    · dsimp only at hopened
      split at hopened
      · cases hopened
      · next behind hgranted =>
        obtain ⟨before, grant, hevents, hidle, hgrants⟩ := exists_grant_of_awaitAnswer hgranted
        refine ⟨before, grant, behind, by rw [hevents], hidle, hgrants, ?_⟩
        rw [Attempt.behind, hgranted]

/-- An event that does not decide, or that grants, is not the end of a connection. -/
theorem ends_came_of_isIdle {event : SocketEvent} (hidle : event.IsIdle ∨ event.Grants) :
    (LinkEvent.came event).ends = false := by
  rcases hidle with hidle | hgrants
  · cases hidle <;> rfl
  · cases hgrants
    rfl

theorem isHeld_new (channel : Channel) : ({ channel } : Session Handler).IsHeld :=
  ⟨rfl, fun _ => rfl, fun _ => rfl⟩

theorem isLent_of_mem_receives {events : List SocketEvent} :
    ∀ operation ∈ events.map (Operation.receive : SocketEvent → Operation Handler),
      operation.IsLent := by
  intro operation hmem
  obtain ⟨event, -, rfl⟩ := List.mem_map.1 hmem
  trivial

theorem arrivals_receives (events : List SocketEvent) :
    (events.map (Operation.receive : SocketEvent → Operation Handler)).flatMap
      Operation.arrivals = events.map LinkEvent.came := by
  rw [List.flatMap_map, ← List.flatMap_singleton' (events.map _), List.flatMap_map]
  rfl

/-- What comes in makes a session write nothing. -/
theorem written_receives (session : Session Handler) (events : List SocketEvent) :
    session.written (events.map .receive) = [] := by
  induction events generalizing session with
  | nil => rfl
  | cons event rest ih =>
      rw [List.map_cons, written_cons, ih]
      rfl

/-- A session that was opened is reached, once it has taken in what came behind the grant, unless
the connection ended there. -/
theorem isNone_fault_of_connect {config : Config} {channel : Channel} {attempt : Attempt}
    {session : Session Handler} {log : List WireEvent}
    (hopened : connect config channel attempt = (.ok session, log)) :
    (session.after ((attempt.behind channel).map .receive)).fault.isNone =
      !(attempt.events.map LinkEvent.came).any LinkEvent.ends := by
  obtain ⟨before, grant, behind, rfl, hidle, hgrants, hbehind⟩ := exists_grant_of_connect hopened
  rw [hbehind, eq_of_connect hopened, ((isHeld_new channel).after isLent_of_mem_receives).2,
    arrivals_receives]
  have hbefore : (before.map LinkEvent.came).any LinkEvent.ends = false := by
    rw [List.any_eq_false]
    intro link hmem
    obtain ⟨event, hevent, rfl⟩ := List.mem_map.1 hmem
    rw [ends_came_of_isIdle (.inl (hidle event hevent))]
    nofun
  rw [Attempt.events, List.map_append, List.any_append, hbefore, List.map_cons, List.any_cons,
    ends_came_of_isIdle (.inr hgrants)]
  rfl

end Session

end ClassroomClient
