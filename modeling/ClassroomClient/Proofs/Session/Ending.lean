/-
# When sessions are seen as disconnected

A session that nobody tears down stops counting as connected for two reasons only: the server ends
the connection, or a frame cannot be written. `Session.Breaks` names both. Of a channel whose
session is held by a manager the same can be said for whole runs: the session counts as
disconnected when something has broken it since its channel was opened, and is connected otherwise.
-/

import ClassroomClient.Proofs.Session.Ownership

namespace ClassroomClient

open Stomp

variable {Handler : Type}

namespace Session

/-- The operation ends the connection of a session as the session sees it: the server ends it, or a
frame is not written since the server is not reached any more. -/
inductive Breaks (session : Session Handler) : Operation Handler → Prop
  | ended {incoming : SocketEvent} (hends : (LinkEvent.came incoming).ends = true) :
      Breaks session (.receive incoming)
  | unsent {destination payload : String} (hunreached : session.fault ≠ none) :
      Breaks session (.send destination payload)
  | unsubscribed {topic : String} {handler : Handler} (hunreached : session.fault ≠ none)
      (hnew : session.subscriptions.handlers.contains topic = false) :
      Breaks session (.subscribe topic handler)

variable {session : Session Handler}

/-- Writing disconnects a session that does not reach the server. -/
theorem isConnected_write (hwritable : session.isWritable = true) (frame : Frame) :
    (session.write frame).1.isConnected = true ↔
      session.isConnected = true ∧ session.fault = none := by
  cases hfault : session.fault <;> simp [Session.write, hwritable, hfault]

/-- An operation of a borrower disconnects a session when it breaks the connection. -/
theorem IsHeld.isConnected_perform (hheld : session.IsHeld) {operation : Operation Handler}
    (hlent : operation.IsLent) :
    (session.perform operation).1.isConnected = true ↔
      session.isConnected = true ∧ ¬ session.Breaks operation := by
  cases operation with
  | disconnect => cases hlent
  | lose reason => exact ⟨fun hconnected => ⟨hconnected, nofun⟩, And.left⟩
  | receive incoming =>
      have hbreaks : session.Breaks (.receive incoming) ↔
          (LinkEvent.came incoming).ends = true := ⟨fun | .ended hends => hends, .ended⟩
      rw [hbreaks, Bool.not_eq_true]
      exact hheld.isConnected_receive incoming
  | send destination payload =>
      have hbreaks : session.Breaks (.send destination payload) ↔ session.fault ≠ none :=
        ⟨fun | .unsent hunreached => hunreached, .unsent⟩
      rw [hbreaks, not_not, perform_send]
      by_cases hconnected : session.isConnected = true
      · rw [send_of_connected hconnected]
        exact isConnected_write hheld.writable _
      · rw [send_of_not_connected (Bool.eq_false_iff.2 hconnected)]
        simp [hconnected]
  | subscribe topic handler =>
      have hbreaks : session.Breaks (.subscribe topic handler) ↔ session.fault ≠ none ∧
          session.subscriptions.handlers.contains topic = false :=
        ⟨fun | .unsubscribed hunreached hnew => ⟨hunreached, hnew⟩, fun h => .unsubscribed h.1 h.2⟩
      rw [hbreaks, perform_subscribe]
      by_cases hconnected : session.isConnected = true
      · by_cases hcontains : session.subscriptions.handlers.contains topic = true
        · rw [subscribe_of_contains hconnected hcontains]
          simp [hconnected, hcontains]
        · rw [subscribe_of_not_contains hconnected (Bool.eq_false_iff.2 hcontains)]
          simp [isConnected_write, hheld.writable, hcontains]
      · rw [subscribe_of_not_connected (Bool.eq_false_iff.2 hconnected)]
        simp [hconnected]

end Session

namespace Manager

/-- The operation ends the connection of a channel as the session that is held there sees it. A new
session may have its connection ended right behind the grant. -/
inductive Breaks (manager : Manager Handler) (channel : Channel) : Operation Handler → Prop
  | used {operation : Operation Handler} {use : Session.Operation Handler}
      {session : Session Handler} (huse : operation.use? = some (channel, use))
      (hsession : manager.session? channel = some session) (hbreaks : session.Breaks use) :
      Breaks manager channel operation
  | opened {attempt : Attempt} {incoming : SocketEvent}
      (hstale : manager.isConnected channel = false) (hmem : incoming ∈ attempt.behind channel)
      (hends : (LinkEvent.came incoming).ends = true) :
      Breaks manager channel (.openChannel channel attempt)

/-- In a run that starts without any session something has broken the connection of a channel, and
nobody has opened the channel after that. -/
def Lost (config : Config) (channel : Channel) (operations : List (Operation Handler)) : Prop :=
  ∃ earlier operation later, operations = earlier ++ operation :: later ∧
    (reached config earlier).Breaks channel operation ∧
    ∀ attempt, .openChannel channel attempt ∉ later

variable {config : Config} {channel : Channel} {operations : List (Operation Handler)}

theorem reached_append_singleton (operation : Operation Handler) :
    reached config (operations ++ [operation]) =
      ((reached config operations).perform config operation).1 :=
  after_append _ _ _ _

/-- The last operation of a run breaks a channel, or it leaves it lost. -/
theorem lost_append_singleton (operation : Operation Handler) :
    Lost config channel (operations ++ [operation]) ↔
      (reached config operations).Breaks channel operation ∨
        Lost config channel operations ∧ ∀ attempt, operation ≠ .openChannel channel attempt := by
  constructor
  · rintro ⟨earlier, breaking, later, hsplit, hbreaks, hunopened⟩
    rcases List.eq_nil_or_concat' later with rfl | ⟨between, last, rfl⟩
    · obtain ⟨rfl, hlast⟩ := List.append_inj' hsplit rfl
      cases hlast
      exact .inl hbreaks
    · rw [← List.cons_append, ← List.append_assoc] at hsplit
      obtain ⟨rfl, hlast⟩ := List.append_inj' hsplit rfl
      cases hlast
      refine .inr ⟨⟨earlier, breaking, between, rfl, hbreaks, fun attempt hmem => ?_⟩, ?_⟩
      · exact hunopened attempt (List.mem_append_left _ hmem)
      · rintro attempt rfl
        exact hunopened attempt (List.mem_append_right _ List.mem_cons_self)
  · rintro (hbreaks | ⟨⟨earlier, breaking, later, rfl, hbreaks, hunopened⟩, hother⟩)
    · exact ⟨operations, operation, [], rfl, hbreaks, fun _ => List.not_mem_nil⟩
    · refine ⟨earlier, breaking, later ++ [operation], by simp, hbreaks, fun attempt hmem => ?_⟩
      rcases List.mem_append.1 hmem with hlater | hlast
      · exact hunopened attempt hlater
      · exact hother attempt (List.mem_singleton.1 hlast).symm

theorem isConnected_of_session? {manager : Manager Handler} {session : Session Handler}
    (hsession : manager.session? channel = some session) :
    manager.isConnected channel = session.isConnected := by
  rw [isConnected, hsession]
  rfl

/-- A session that is held has not been torn down. -/
theorem isHeld_reached {session : Session Handler}
    (hsession : (reached config operations).session? channel = some session) : session.IsHeld := by
  obtain ⟨_, _, _, hcarries, _⟩ := exists_carries hsession
  exact hcarries.isHeld

/-- The use of a session breaks its channel when it breaks the session. -/
theorem breaks_of_use {manager : Manager Handler} {operation : Operation Handler}
    {use : Session.Operation Handler} {session : Session Handler}
    (huse : operation.use? = some (channel, use))
    (hsession : manager.session? channel = some session) :
    manager.Breaks channel operation ↔ session.Breaks use := by
  refine ⟨?_, .used huse hsession⟩
  rintro (⟨hother, hfound, hbreaks⟩ | _)
  · rw [huse] at hother
    rw [hsession] at hfound
    cases hother
    cases hfound
    exact hbreaks
  · cases huse

/-- Opening a channel that is not connected breaks it when the connection ends behind the grant. -/
theorem isConnected_openChannel {manager : Manager Handler} {attempt : Attempt}
    {session : Session Handler}
    (hsession : (manager.openChannel config channel attempt).1.session? channel = some session) :
    session.isConnected = true ↔ ¬ manager.Breaks channel (.openChannel channel attempt) := by
  have hbreaks : manager.Breaks channel (.openChannel channel attempt) ↔
      manager.isConnected channel = false ∧
        ∃ incoming ∈ attempt.behind channel, (LinkEvent.came incoming).ends = true := by
    constructor
    · rintro (⟨⟨⟩, _, _⟩ | ⟨hstale, hmem, hends⟩)
      exact ⟨hstale, _, hmem, hends⟩
    · rintro ⟨hstale, incoming, hmem, hends⟩
      exact .opened hstale hmem hends
  rw [hbreaks]
  rcases manager.openChannel_cases config channel attempt with
    ⟨provided, written, hprovides, hopen⟩ | ⟨error, written, -, hopen⟩
  · rw [hopen, session?_set, if_pos rfl] at hsession
    cases hsession
    generalize hbefore : manager.session? channel = session? at hprovides
    cases hprovides with
    | kept hconnected => simp [isConnected_of_session? hbefore, hconnected]
    | opened hstale hopened =>
        have hlost : manager.isConnected channel = false := by
          rwa [isConnected_eq_false, hbefore]
        rw [Session.eq_of_connect hopened,
          (Session.isHeld_new channel).isConnected_receives, hlost]
        simp
  · rw [hopen, session?_set, if_pos rfl] at hsession
    cases hsession

/-- An operation that neither uses nor opens a channel gives it no other session. -/
theorem session?_of_perform_other {manager : Manager Handler} {operation : Operation Handler}
    {session : Session Handler} (hunused : ∀ use, operation.use? ≠ some (channel, use))
    (hunopened : ∀ attempt, operation ≠ .openChannel channel attempt)
    (hsession : (manager.perform config operation).1.session? channel = some session) :
    manager.session? channel = some session := by
  cases huse : operation.use? with
  | some used =>
      obtain ⟨other, use⟩ := used
      have hother : channel ≠ other := by
        rintro rfl
        exact hunused use huse
      rwa [(manager.perform_of_use config huse).1, session?_set_of_ne _ _ hother] at hsession
  | none =>
      cases operation with
      | openChannel other attempt =>
          have hother : channel ≠ other := by
            rintro rfl
            exact hunopened attempt rfl
          rwa [← manager.session?_openChannel_of_ne config attempt hother]
      | get other => exact hsession
      | disconnectAll =>
          rw [perform_disconnectAll] at hsession
          cases hsession
      | _ => cases huse

/-- After any run the session that is held on a channel is connected unless the channel is lost. -/
theorem isConnected_reached {session : Session Handler}
    (hsession : (reached config operations).session? channel = some session) :
    session.isConnected = true ↔ ¬ Lost config channel operations := by
  induction operations using List.reverseRecOn generalizing session with
  | nil => cases hsession
  | append_singleton operations operation ih =>
      rw [reached_append_singleton] at hsession
      rw [lost_append_singleton, not_or]
      by_cases hopening : ∃ attempt, operation = .openChannel channel attempt
      · obtain ⟨attempt, rfl⟩ := hopening
        rw [isConnected_openChannel hsession]
        simp
      have hunopened (attempt : Attempt) : operation ≠ .openChannel channel attempt :=
        fun hopened => hopening ⟨attempt, hopened⟩
      by_cases hused : ∃ use, operation.use? = some (channel, use)
      · obtain ⟨use, huse⟩ := hused
        rw [(perform_of_use _ config huse).1, session?_set, if_pos rfl] at hsession
        obtain ⟨before, hbefore, rfl⟩ := Option.map_eq_some_iff.1 hsession
        rw [(isHeld_reached hbefore).isConnected_perform (isLent_of_use huse), ih hbefore,
          breaks_of_use huse hbefore]
        simp [hunopened, and_comm]
      · have hunused (use : Session.Operation Handler) : operation.use? ≠ some (channel, use) :=
          fun huse => hused ⟨use, huse⟩
        have hbefore := session?_of_perform_other hunused hunopened hsession
        have hunbroken : ¬ (reached config operations).Breaks channel operation := by
          rintro (⟨huse, _, _⟩ | _)
          · exact hunused _ huse
          · exact hunopened _ rfl
        simp [ih hbefore, hunbroken, hunopened]

end Manager

end ClassroomClient
