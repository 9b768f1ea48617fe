/-
# What happens on a channel of a manager

A run of a manager is a list of operations: what is done with the manager and with the sessions that
it lends out, and what happens to their connections, in any order. An operation names one channel or
works on all of them, but what it does to a single channel is one of a few things. `Turn` lists
them, each with the session before, what happens on the connections of the channel, and the session
after.
-/

import ClassroomClient.Proofs.Session.Lent
import ClassroomClient.Proofs.Session.Manager

namespace ClassroomClient

open Stomp

variable {Handler : Type}

/-! ## Operations on a manager -/

namespace Manager

/-- What is done with a manager or with a session that it holds, and what happens to them. -/
inductive Operation (Handler : Type)
  | openChannel (channel : Channel) (attempt : Attempt)
  | get (channel : Channel)
  | disconnectAll
  | subscribe (channel : Channel) (topic : String) (handler : Handler)
  | send (channel : Channel) (destination payload : String)
  | receive (channel : Channel) (event : SocketEvent)
  /-- Frames do not reach the server any more, which the session has not noticed. -/
  | lose (channel : Channel) (reason : String)

/-- What an operation brings: its result, the session that it lends out, what is written and the
handler that is invoked. -/
structure Outcome (Handler : Type) where
  result : Except SessionError Unit := .ok ()
  session? : Option (Session Handler) := none
  log : WireLog := []
  delivered : Option (Handler × Inbound) := none

/-- Performs one operation. -/
def perform (manager : Manager Handler) (config : Config) :
    Operation Handler → Manager Handler × Outcome Handler
  | .openChannel channel attempt =>
    let (after, result, log) := manager.openChannel config channel attempt
    (after, { result, session? := if result.isOk then after.session? channel else none, log })
  | .get channel => (manager, { session? := manager.session? channel })
  | .disconnectAll =>
    let (after, log) := manager.disconnectAll
    (after, { log })
  | .subscribe channel topic handler =>
    let (after, result, log) := manager.subscribe channel topic handler
    (after, { result, log })
  | .send channel destination payload =>
    let (after, result, log) := manager.send channel destination payload
    (after, { result := result.mapError SessionError.ofSend, log })
  | .receive channel event =>
    let (after, delivered) := manager.receive channel event
    (after, { delivered })
  | .lose channel reason => (manager.lose channel reason, {})

/-- The manager after a run. -/
def after (manager : Manager Handler) (config : Config) (operations : List (Operation Handler)) :
    Manager Handler :=
  operations.foldl (fun manager operation => (manager.perform config operation).1) manager

/-- What a log says of a channel. -/
def writtenOn (channel : Channel) (log : WireLog) : List WireEvent :=
  log.filterMap fun (other, event) => if other = channel then some event else none

namespace Operation

/-- What is done with the session that is held on a channel. -/
def use? : Operation Handler → Option (Channel × Session.Operation Handler)
  | subscribe channel topic handler => some (channel, .subscribe topic handler)
  | send channel destination payload => some (channel, .send destination payload)
  | receive channel event => some (channel, .receive event)
  | lose channel reason => some (channel, .lose reason)
  | _ => none

/-- What happens on the connections of a channel beside what is written there. -/
def arrivals (channel : Channel) (operation : Operation Handler) : List LinkEvent :=
  match operation.use? with
  | some (other, use) => if other = channel then use.arrivals else []
  | none => []

/-- What an attempt to connect on a channel meets, if the operation makes one. -/
def attempt? (channel : Channel) : Operation Handler → Option Attempt
  | openChannel other attempt => if other = channel then some attempt else none
  | _ => none

end Operation

/-- What happens on the connections of a channel when this is written on it by an attempt to
connect. What comes in on a connection is listed behind all that is written on it. A connection
that brings no session is given up. -/
def attempted (attempt? : Option Attempt) (written : List WireEvent)
    (session? : Option (Session Handler)) : List LinkEvent :=
  if .opened ∈ written then
    ((attempt?.map Attempt.events).getD []).map .came ++
      if session?.isNone then [.abandoned] else []
  else []

/-- What happens on the connections of a channel when an operation is performed. -/
def happens (manager : Manager Handler) (config : Config) (channel : Channel)
    (operation : Operation Handler) : List LinkEvent :=
  let written := writtenOn channel (manager.perform config operation).2.log
  let session? := (manager.perform config operation).1.session? channel
  written.map .wrote ++ attempted (operation.attempt? channel) written session? ++
    operation.arrivals channel

/-- What happens on the connections of a channel in a run. -/
def traffic (manager : Manager Handler) (config : Config) (channel : Channel) :
    List (Operation Handler) → List LinkEvent
  | [] => []
  | operation :: rest =>
    manager.happens config channel operation ++
      (manager.perform config operation).1.traffic config channel rest

theorem after_cons (manager : Manager Handler) (config : Config) (operation : Operation Handler)
    (rest : List (Operation Handler)) :
    manager.after config (operation :: rest) =
      (manager.perform config operation).1.after config rest := rfl

theorem after_append (manager : Manager Handler) (config : Config)
    (earlier later : List (Operation Handler)) :
    manager.after config (earlier ++ later) = (manager.after config earlier).after config later :=
  List.foldl_append

theorem traffic_append (manager : Manager Handler) (config : Config) (channel : Channel)
    (earlier later : List (Operation Handler)) :
    manager.traffic config channel (earlier ++ later) =
      manager.traffic config channel earlier ++
        (manager.after config earlier).traffic config channel later := by
  induction earlier generalizing manager with
  | nil => rfl
  | cons operation rest ih =>
      rw [List.cons_append, traffic, ih, traffic, after_cons, List.append_assoc]

/-! ## Logs and sessions of one channel -/

@[simp] theorem writtenOn_append (channel : Channel) (first second : WireLog) :
    writtenOn channel (first ++ second) = writtenOn channel first ++ writtenOn channel second :=
  List.filterMap_append

@[simp] theorem writtenOn_onChannel (channel : Channel) (written : List WireEvent) :
    writtenOn channel (onChannel channel written) = written := by
  rw [writtenOn, onChannel, List.filterMap_map]
  exact (List.filterMap_congr fun event _ => if_pos rfl).trans List.filterMap_some

theorem writtenOn_onChannel_of_ne {channel other : Channel} (hother : other ≠ channel)
    (written : List WireEvent) : writtenOn channel (onChannel other written) = [] := by
  rw [writtenOn, onChannel, List.filterMap_map, List.filterMap_eq_nil_iff]
  exact fun event _ => if_neg hother

theorem set_self (manager : Manager Handler) (channel : Channel) :
    manager.set channel (manager.session? channel) = manager := by
  simp only [Manager.set]
  congr 1
  funext other
  split
  · next hother => rw [hother]
  · rfl

theorem set_set (manager : Manager Handler) (channel : Channel)
    (first second : Option (Session Handler)) :
    (manager.set channel first).set channel second = manager.set channel second := by
  simp only [Manager.set]
  congr 1
  funext other
  split <;> rfl

/-- What the server sees of a session that is torn down. -/
def farewell : Option (Session Handler) → List WireEvent
  | none => []
  | some session => session.disconnect.2

theorem discard_eq (manager : Manager Handler) (channel : Channel) :
    manager.discard channel =
      (manager.set channel none, onChannel channel (farewell (manager.session? channel))) := by
  unfold discard
  split
  · next hnone =>
    have hsame := manager.set_self channel
    rw [hnone] at hsame ⊢
    rw [hsame]
    rfl
  · next session hsession =>
    rw [hsession]
    rfl

/-! ## Opening a channel -/

/-- The session that a channel has when it was opened, with what was written for that: the session
that was there and is connected, or a new one in place of whatever was there, which has taken in
what came behind the grant. -/
inductive Provides (config : Config) (channel : Channel) (attempt : Attempt) :
    Option (Session Handler) → Session Handler → List WireEvent → Prop
  | kept {session : Session Handler} (hconnected : session.isConnected = true) :
      Provides config channel attempt (some session) session []
  | opened {session? : Option (Session Handler)} {session : Session Handler}
      {written : List WireEvent} (hstale : ∀ stale ∈ session?, stale.isConnected = false)
      (hopened : Session.connect config channel attempt = (.ok session, written)) :
      Provides config channel attempt session?
        (session.after ((attempt.behind channel).map .receive)) (farewell session? ++ written)

/-- What is written for a channel that could not be opened. -/
inductive Denies (config : Config) (channel : Channel) (attempt : Attempt) :
    Option (Session Handler) → SessionError → List WireEvent → Prop
  | intro {session? : Option (Session Handler)} {error : SessionError} {written : List WireEvent}
      (hstale : ∀ stale ∈ session?, stale.isConnected = false)
      (hfailed : @Session.connect Handler config channel attempt = (.error error, written)) :
      Denies config channel attempt session? error (farewell session? ++ written)

theorem isConnected_eq_false {manager : Manager Handler} {channel : Channel} :
    manager.isConnected channel = false ↔
      ∀ stale ∈ manager.session? channel, stale.isConnected = false := by
  unfold isConnected
  cases manager.session? channel <;> simp

/-- Opening a channel provides a session, or it fails and leaves none. -/
theorem openChannel_cases (manager : Manager Handler) (config : Config) (channel : Channel)
    (attempt : Attempt) :
    (∃ session written,
        Provides config channel attempt (manager.session? channel) session written ∧
          manager.openChannel config channel attempt =
            (manager.set channel (some session), .ok (), onChannel channel written)) ∨
      ∃ error written, Denies config channel attempt (manager.session? channel) error written ∧
        manager.openChannel config channel attempt =
          (manager.set channel none, .error error, onChannel channel written) := by
  by_cases hconnected : manager.isConnected channel = true
  · have hopen : manager.openChannel config channel attempt = (manager, .ok (), []) := by
      rw [openChannel, if_pos hconnected]
    cases hsession : manager.session? channel with
    | none => simp [isConnected, hsession] at hconnected
    | some session =>
        have hkept : session.isConnected = true := by simpa [isConnected, hsession] using hconnected
        refine .inl ⟨session, [], .kept hkept, ?_⟩
        rw [hopen, ← hsession, set_self]
        rfl
  · have hstale := isConnected_eq_false.1 (Bool.eq_false_iff.2 hconnected)
    have hlog (written : List WireEvent) :
        onChannel channel (farewell (manager.session? channel) ++ written) =
          onChannel channel (farewell (manager.session? channel)) ++ onChannel channel written :=
      List.map_append
    unfold openChannel
    rw [if_neg hconnected, discard_eq]
    cases hconnect : @Session.connect Handler config channel attempt with
    | mk result written =>
        cases result with
        | error error =>
            exact .inr ⟨error, _, .intro hstale hconnect, by rw [hlog]⟩
        | ok session =>
            refine .inl ⟨_, _, .opened hstale hconnect, ?_⟩
            rw [hlog]
            dsimp only
            rw [set_set, Session.receiveEarly_eq_after]

theorem writtenOn_openChannel_of_ne (manager : Manager Handler) (config : Config)
    {channel other : Channel} (attempt : Attempt) (hother : other ≠ channel) :
    writtenOn channel (manager.openChannel config other attempt).2.2 = [] := by
  rcases manager.openChannel_cases config other attempt with
    ⟨session, written, -, hopen⟩ | ⟨error, written, -, hopen⟩
  · rw [hopen, writtenOn_onChannel_of_ne hother]
  · rw [hopen, writtenOn_onChannel_of_ne hother]

/-! ## Turns -/

/-- What an operation does on one channel: the session before, what happens on the connections, and
the session after. -/
inductive Turn (config : Config) (channel : Channel) :
    Option (Session Handler) → List LinkEvent → Option (Session Handler) → Prop
  | idle {session? : Option (Session Handler)} : Turn config channel session? [] session?
  /-- There is no session that could take notice. -/
  | unheard (use : Session.Operation Handler) : Turn config channel none use.arrivals none
  | used {session : Session Handler} {use : Session.Operation Handler} (hlent : use.IsLent) :
      Turn config channel (some session)
        ((session.perform use).2.written.map .wrote ++ use.arrivals) (some (session.perform use).1)
  | discarded {session : Session Handler} :
      Turn config channel (some session) (session.disconnect.2.map .wrote) none
  | opened {session? : Option (Session Handler)} {attempt : Attempt} {session : Session Handler}
      {log : List WireEvent} (hstale : ∀ stale ∈ session?, stale.isConnected = false)
      (hopened : Session.connect config channel attempt = (.ok session, log)) :
      Turn config channel session?
        ((farewell session? ++ log).map .wrote ++ attempt.events.map .came)
        (some (session.after ((attempt.behind channel).map .receive)))
  | denied {session? : Option (Session Handler)} {attempt : Attempt} {error : SessionError}
      {written : List WireEvent}
      (hdenies : Denies config channel attempt session? error written) :
      Turn config channel session? (written.map .wrote ++ attempted (some attempt) written none)
        none

/-- Nothing but opening opens a connection. -/
theorem opened_not_mem_farewell (session? : Option (Session Handler)) :
    .opened ∉ farewell session? := by
  cases session? with
  | none => exact List.not_mem_nil
  | some session =>
      rw [farewell, Session.disconnect]
      split
      · exact List.not_mem_nil
      · dsimp only
        split <;> simp

theorem opened_not_mem_written (session : Session Handler) {use : Session.Operation Handler}
    (hlent : use.IsLent) : .opened ∉ (session.perform use).2.written := by
  intro hmem
  have hwritten : .opened ∈ session.written [use] := by
    rwa [Session.written_singleton]
  obtain ⟨frame, -, htext⟩ :=
    session.written_of_isLent (List.forall_mem_singleton.2 hlent) _ hwritten
  cases htext

/-- What is done with the session of a channel stays on that channel. -/
theorem perform_of_use (manager : Manager Handler) (config : Config) {channel : Channel}
    {operation : Operation Handler} {use : Session.Operation Handler}
    (huse : operation.use? = some (channel, use)) :
    (manager.perform config operation).1 =
        manager.set channel ((manager.session? channel).map fun session =>
          (session.perform use).1) ∧
      (manager.perform config operation).2.log =
        onChannel channel (((manager.session? channel).map fun session =>
          (session.perform use).2.written).getD []) := by
  have hfree (hnone : manager.session? channel = none) : manager.set channel none = manager := by
    rw [← hnone, set_self]
  cases hsession : manager.session? channel with
  | none =>
      rw [Option.map_none, Option.map_none, hfree hsession]
      cases operation <;> cases huse <;>
        simp [perform, Manager.subscribe, Manager.send, Manager.receive, Manager.lose, hsession,
          onChannel, hfree]
  | some session =>
      cases operation <;> cases huse <;>
        simp [perform, Manager.subscribe, Manager.send, Manager.receive, Manager.lose, hsession,
          onChannel, Session.perform]

/-- Using sessions takes none of them away. -/
theorem isSome_after_uses (manager : Manager Handler) (config : Config) (channel : Channel)
    {operations : List (Operation Handler)}
    (hused : ∀ operation ∈ operations, operation.use?.isSome) :
    ((manager.after config operations).session? channel).isSome =
      (manager.session? channel).isSome := by
  induction operations generalizing manager with
  | nil => rfl
  | cons operation rest ih =>
      obtain ⟨⟨other, use⟩, huse⟩ := Option.isSome_iff_exists.1 (hused operation List.mem_cons_self)
      rw [after_cons, ih _ fun later hmem => hused later (List.mem_cons_of_mem _ hmem),
        (manager.perform_of_use config huse).1, session?_set]
      by_cases hother : channel = other
      · rw [if_pos hother, hother, Option.isSome_map]
      · rw [if_neg hother]

theorem disconnectAll_eq (manager : Manager Handler) :
    manager.disconnectAll =
      (((manager.set .submit none).set .control none).set .feedback none,
        Channel.all.flatMap fun channel =>
          onChannel channel (farewell (manager.session? channel))) := by
  simp [disconnectAll, Channel.all, discard_eq, session?_set]

/-- A channel on which nothing is written, and which the operation does not use, is left alone. -/
theorem happens_eq_nil {manager : Manager Handler} {config : Config} {channel : Channel}
    {operation : Operation Handler}
    (hsilent : writtenOn channel (manager.perform config operation).2.log = [])
    (hunused : ∀ use, operation.use? ≠ some (channel, use)) :
    manager.happens config channel operation = [] := by
  have harrivals : operation.arrivals channel = [] := by
    unfold Operation.arrivals
    split
    · next other use huse =>
      rw [if_neg]
      rintro rfl
      exact hunused use huse
    · rfl
  simp only [happens, hsilent, harrivals, attempted, if_neg List.not_mem_nil]
  rfl

theorem happens_of_use {manager : Manager Handler} {config : Config} {channel : Channel}
    {operation : Operation Handler} {use : Session.Operation Handler}
    (huse : operation.use? = some (channel, use)) (hlent : use.IsLent) :
    manager.happens config channel operation =
      (((manager.session? channel).map fun session =>
        (session.perform use).2.written).getD []).map .wrote ++ use.arrivals := by
  obtain ⟨-, hlog⟩ := manager.perform_of_use config huse
  have hquiet : .opened ∉ ((manager.session? channel).map fun session =>
      (session.perform use).2.written).getD [] := by
    cases manager.session? channel with
    | none => nofun
    | some session =>
        exact opened_not_mem_written session hlent
  simp only [happens, hlog, writtenOn_onChannel, attempted, if_neg hquiet, Operation.arrivals, huse,
    if_pos, List.append_nil]

theorem isLent_of_use {channel : Channel} {operation : Operation Handler}
    {use : Session.Operation Handler} (huse : operation.use? = some (channel, use)) :
    use.IsLent := by
  cases operation <;> cases huse <;> trivial

/-- Using a session does to it what the use does, or there is none. -/
theorem turn_of_use (manager : Manager Handler) (config : Config) {channel : Channel}
    {operation : Operation Handler} {use : Session.Operation Handler}
    (huse : operation.use? = some (channel, use)) :
    Turn config channel (manager.session? channel) (manager.happens config channel operation)
      ((manager.perform config operation).1.session? channel) := by
  have hlent := isLent_of_use huse
  rw [happens_of_use huse hlent, (manager.perform_of_use config huse).1, session?_set, if_pos rfl]
  cases manager.session? channel with
  | none => exact .unheard use
  | some session => exact .used hlent

theorem happens_openChannel (manager : Manager Handler) (config : Config) (channel : Channel)
    (attempt : Attempt) :
    let opened := manager.openChannel config channel attempt
    manager.happens config channel (.openChannel channel attempt) =
      (writtenOn channel opened.2.2).map .wrote ++
        attempted (some attempt) (writtenOn channel opened.2.2) (opened.1.session? channel) := by
  intro opened
  rw [happens, Operation.attempt?, if_pos rfl]
  exact List.append_nil _

theorem happens_disconnectAll (manager : Manager Handler) (config : Config) (channel : Channel) :
    manager.happens config channel .disconnectAll =
      (farewell (manager.session? channel)).map .wrote := by
  have hwritten : writtenOn channel manager.disconnectAll.2 =
      farewell (manager.session? channel) := by
    rw [disconnectAll_eq]
    cases channel <;> simp [Channel.all, writtenOn_onChannel_of_ne]
  change (writtenOn channel manager.disconnectAll.2).map .wrote ++
    attempted none (writtenOn channel manager.disconnectAll.2) _ ++ [] = _
  rw [hwritten, attempted, if_neg (opened_not_mem_farewell _), List.append_nil, List.append_nil]

theorem turn_openChannel (manager : Manager Handler) (config : Config) (channel : Channel)
    (attempt : Attempt) :
    Turn config channel (manager.session? channel)
      (manager.happens config channel (.openChannel channel attempt))
      ((manager.perform config (.openChannel channel attempt)).1.session? channel) := by
  rw [happens_openChannel]
  change Turn config channel (manager.session? channel) _
    ((manager.openChannel config channel attempt).1.session? channel)
  rcases manager.openChannel_cases config channel attempt with
    ⟨session, written, hprovides, hopen⟩ | ⟨error, written, hdenies, hopen⟩
  · rw [hopen, session?_set, if_pos rfl, writtenOn_onChannel]
    generalize manager.session? channel = session? at hprovides ⊢
    cases hprovides with
    | kept hconnected => exact .idle
    | opened hstale hopened =>
        have hturn := @Turn.opened _ config channel _ _ _ _ hstale hopened
        obtain ⟨url, -, hlog⟩ := Session.url_of_connect hopened
        rw [attempted, if_pos (by rw [hlog]; simp)]
        simpa using hturn
  · rw [hopen, session?_set, if_pos rfl, writtenOn_onChannel]
    exact .denied hdenies

/-- Every operation does one of a few things on a channel. -/
theorem turn_happens (manager : Manager Handler) (config : Config) (channel : Channel)
    (operation : Operation Handler) :
    Turn config channel (manager.session? channel) (manager.happens config channel operation)
      ((manager.perform config operation).1.session? channel) := by
  have hidle (hsame : (manager.perform config operation).1.session? channel =
      manager.session? channel)
      (hsilent : writtenOn channel (manager.perform config operation).2.log = [])
      (hunused : ∀ use, operation.use? ≠ some (channel, use)) :
      Turn config channel (manager.session? channel) (manager.happens config channel operation)
        ((manager.perform config operation).1.session? channel) := by
    rw [hsame, happens_eq_nil hsilent hunused]
    exact .idle
  have hused {other : Channel} {use : Session.Operation Handler}
      (huse : operation.use? = some (other, use)) :
      Turn config channel (manager.session? channel) (manager.happens config channel operation)
        ((manager.perform config operation).1.session? channel) := by
    by_cases hother : other = channel
    · rw [hother] at huse
      exact manager.turn_of_use config huse
    · obtain ⟨hafter, hlog⟩ := manager.perform_of_use config huse
      apply hidle
      · rw [hafter, session?_set_of_ne _ _ (Ne.symm hother)]
      · rw [hlog, writtenOn_onChannel_of_ne hother]
      · rintro _ hself
        rw [huse] at hself
        cases hself
        exact hother rfl
  cases operation with
  | openChannel other attempt =>
      by_cases hother : other = channel
      · subst hother
        exact manager.turn_openChannel config other attempt
      · apply hidle
        · exact manager.session?_openChannel_of_ne config attempt (Ne.symm hother)
        · exact manager.writtenOn_openChannel_of_ne config attempt hother
        · simp [Operation.use?]
  | get other => exact hidle rfl rfl (by simp [Operation.use?])
  | disconnectAll =>
      have hnone : manager.disconnectAll.1.session? channel = none := by
        rw [disconnectAll_eq]
        cases channel <;> rfl
      change Turn config channel _ _ (manager.disconnectAll.1.session? channel)
      rw [happens_disconnectAll, hnone]
      cases manager.session? channel with
      | none => exact .idle
      | some session => exact .discarded
  | subscribe other topic handler => exact hused rfl
  | send other destination payload => exact hused rfl
  | receive other event => exact hused rfl
  | lose other reason => exact hused rfl

end Manager

end ClassroomClient
