/-
# Who owns the connections

The connections of a channel are opened one after the other, and each is closed before the next one
is opened: a new session is connected only when the one before has lost its connection, and an
attempt that fails gives its connection up. The newest connection belongs to the session that is
held, if there is one; `Backs` is what every operation keeps of that.
-/

import ClassroomClient.Proofs.Session.Traffic

namespace ClassroomClient

open Stomp

variable {Handler : Type}

/-! ## Connections -/

/-- A connection as the server sees it: the texts written on it, and whether it is open. -/
structure Connection where
  texts : List String := []
  isOpen : Bool := true

/-- The text that an event brings to the server. -/
def LinkEvent.text? : LinkEvent → Option String
  | .wrote event => event.text?
  | _ => none

namespace Connection

/-- A connection after an event. -/
def take (connection : Connection) (event : LinkEvent) : Connection where
  texts := connection.texts ++ event.text?.toList
  isOpen := connection.isOpen && !event.ends

/-- The connections of a channel after an event. The newest one stands first. -/
def step (connections : List Connection) : LinkEvent → List Connection
  | .wrote .opened => {} :: connections
  | event => connections.modifyHead fun newest => newest.take event

/-- The connections of a channel after what happens on them. -/
def after (connections : List Connection) (events : List LinkEvent) : List Connection :=
  events.foldl step connections

theorem after_append (connections : List Connection) (first second : List LinkEvent) :
    after connections (first ++ second) = after (after connections first) second :=
  List.foldl_append

theorem step_of_ne {event : LinkEvent} (hquiet : event ≠ .wrote .opened)
    (connections : List Connection) :
    step connections event = connections.modifyHead fun newest => newest.take event := by
  unfold step
  split
  · exact absurd rfl hquiet
  · rfl

/-- As long as none is opened, what happens is the matter of the newest connection. -/
theorem after_cons_of_quiet {events : List LinkEvent} (hquiet : .wrote .opened ∉ events)
    (newest : Connection) (older : List Connection) :
    after (newest :: older) events =
      { texts := newest.texts ++ events.filterMap LinkEvent.text?
        isOpen := newest.isOpen && !events.any LinkEvent.ends } :: older := by
  induction events generalizing newest with
  | nil => simp [after]
  | cons event rest ih =>
      obtain ⟨hfirst, hrest⟩ := not_or.1 fun h => hquiet (List.mem_cons.2 h)
      have hstep : after (newest :: older) (event :: rest) =
          after (newest.take event :: older) rest :=
        congrArg (after · rest) (step_of_ne (Ne.symm hfirst) (newest :: older))
      have htexts : (event :: rest).filterMap LinkEvent.text? =
          event.text?.toList ++ rest.filterMap LinkEvent.text? := by
        rw [List.filterMap_cons]
        cases event.text? <;> rfl
      rw [hstep, ih hrest, take, htexts, List.any_cons, Bool.not_or, Bool.and_assoc,
        List.append_assoc]

theorem after_nil_of_quiet {events : List LinkEvent} (hquiet : .wrote .opened ∉ events) :
    after [] events = [] := by
  induction events with
  | nil => rfl
  | cons event rest ih =>
      obtain ⟨hfirst, hrest⟩ := not_or.1 fun h => hquiet (List.mem_cons.2 h)
      have hstep : after [] (event :: rest) = after [] rest :=
        congrArg (after · rest) (step_of_ne (Ne.symm hfirst) [])
      rw [hstep, ih hrest]

/-- Whether all of them are closed. -/
def AllClosed (connections : List Connection) : Prop :=
  ∀ connection ∈ connections, connection.isOpen = false

theorem AllClosed.after_of_quiet {connections : List Connection} (hclosed : AllClosed connections)
    {events : List LinkEvent} (hquiet : .wrote .opened ∉ events) :
    AllClosed (after connections events) := by
  cases connections with
  | nil =>
      rw [after_nil_of_quiet hquiet]
      exact hclosed
  | cons newest older =>
      obtain ⟨hnewest, holder⟩ := List.forall_mem_cons.1 hclosed
      rw [after_cons_of_quiet hquiet]
      refine List.forall_mem_cons.2 ⟨?_, holder⟩
      rw [hnewest]
      rfl

/-- A connection is opened only when all before it are closed. -/
def OpensAlone (connections : List Connection) : List LinkEvent → Prop
  | [] => True
  | event :: rest =>
    (event = .wrote .opened → AllClosed connections) ∧ OpensAlone (step connections event) rest

theorem opensAlone_append (connections : List Connection) (first second : List LinkEvent) :
    OpensAlone connections (first ++ second) ↔
      OpensAlone connections first ∧ OpensAlone (after connections first) second := by
  induction first generalizing connections with
  | nil => exact ⟨fun h => ⟨trivial, h⟩, fun h => h.2⟩
  | cons event rest ih =>
      rw [List.cons_append, OpensAlone, OpensAlone, ih, and_assoc]
      rfl

theorem opensAlone_of_quiet (connections : List Connection) {events : List LinkEvent}
    (hquiet : .wrote .opened ∉ events) : OpensAlone connections events := by
  induction events generalizing connections with
  | nil => trivial
  | cons event rest ih =>
      obtain ⟨hfirst, hrest⟩ := not_or.1 fun h => hquiet (List.mem_cons.2 h)
      exact ⟨fun hopened => absurd hopened.symm hfirst, ih _ hrest⟩

/-- When all others are closed, one more can be opened; what happens behind is its own matter. -/
theorem AllClosed.opened {connections : List Connection} (hclosed : AllClosed connections)
    {front back : List LinkEvent} (hfront : .wrote .opened ∉ front)
    (hback : .wrote .opened ∉ back) :
    AllClosed (after connections front) ∧
      after connections (front ++ .wrote .opened :: back) =
        { texts := back.filterMap LinkEvent.text?, isOpen := !back.any LinkEvent.ends } ::
          after connections front ∧
      OpensAlone connections (front ++ .wrote .opened :: back) := by
  have hstill := hclosed.after_of_quiet hfront
  refine ⟨hstill, ?_, (opensAlone_append _ _ _).2 ⟨opensAlone_of_quiet _ hfront, ?_⟩⟩
  · rw [after_append]
    exact after_cons_of_quiet hback {} (after connections front)
  · exact ⟨fun _ => hstill, opensAlone_of_quiet _ hback⟩

/-- Whether none but the newest one may be open. -/
def OnlyNewest (connections : List Connection) : Prop :=
  AllClosed connections.tail

theorem OnlyNewest.length_le {connections : List Connection} (honly : OnlyNewest connections) :
    (connections.filter (·.isOpen)).length ≤ 1 := by
  cases connections with
  | nil => exact Nat.zero_le 1
  | cons newest older =>
      have hnone : older.filter (·.isOpen) = [] := by
        rw [List.filter_eq_nil_iff]
        intro connection hmem
        rw [honly connection hmem]
        nofun
      rw [List.filter_cons, hnone]
      split
      · exact Nat.le_refl 1
      · exact Nat.zero_le 1

/-- When each is opened alone, none but the newest one is open at any moment. -/
theorem OnlyNewest.after {connections : List Connection} (honly : OnlyNewest connections)
    {events moment : List LinkEvent} (halone : OpensAlone connections events)
    (hmoment : moment <+: events) : OnlyNewest (after connections moment) := by
  induction moment generalizing connections events with
  | nil => exact honly
  | cons event moment ih =>
      obtain ⟨rest, rfl⟩ := hmoment
      obtain ⟨hfirst, hrest⟩ := halone
      refine ih ?_ hrest (List.prefix_append moment rest)
      by_cases hopened : event = .wrote .opened
      · rw [hopened]
        exact hfirst hopened
      · rw [step_of_ne hopened]
        cases connections with
        | nil => exact honly
        | cons newest older => exact honly

end Connection

/-- What the server sees of an attempt to connect: a connection is opened once, and only if the
attempt is accepted. -/
inductive Attempt.Shows (config : Config) (channel : Channel) : Attempt → List WireEvent → Prop
  | invalid {attempt : Attempt} {error : ConfigError}
      (hurl : config.channelUrl channel = .error error) : Shows config channel attempt []
  | unreachable {url : Url} {reason : String} (hurl : config.channelUrl channel = .ok url) :
      Shows config channel (.unreachable reason) []
  | refused {url : Url} {reason : String} (hurl : config.channelUrl channel = .ok url) :
      Shows config channel (.refused reason) [.refused]
  | accepted {url : Url} {events : List SocketEvent} (hurl : config.channelUrl channel = .ok url) :
      Shows config channel (.accepted events)
        [.opened, .text ("CONNECT\naccept-version:1.1,1.2\nhost:" ++ Session.hostName url ++
          "\nheart-beat:0,0\n\n\x00")]

theorem Attempt.shows_accepted {config : Config} {channel : Channel} {url : Url}
    {events : List SocketEvent} (hurl : config.channelUrl channel = .ok url) :
    (Attempt.accepted events).Shows config channel
      [.opened, .text (connectFrame (Session.hostName url)).encode] := by
  rw [encode_connectFrame]
  exact .accepted hurl

theorem Session.shows_connect {config : Config} {channel : Channel} {attempt : Attempt}
    {result : Except SessionError (Session Handler)} {log : List WireEvent}
    (hconnect : connect config channel attempt = (result, log)) :
    attempt.Shows config channel log := by
  unfold connect at hconnect
  split at hconnect
  · next hurl =>
    cases hconnect
    exact .invalid hurl
  · next hurl =>
    split at hconnect
    · cases hconnect
      exact .unreachable hurl
    · cases hconnect
      exact .refused hurl
    · dsimp only at hconnect
      split at hconnect
      · cases hconnect
        exact Attempt.shows_accepted hurl
      · cases hconnect
        exact Attempt.shows_accepted hurl

/-! ## The connection of a session -/

namespace Manager

open Connection

/-- A session with the connection that it was opened on: what the server has seen there are the
texts of the session, and the connection is open as long as the session reaches the server. -/
structure Carries (config : Config) (channel : Channel) (session : Session Handler)
    (connection : Connection) : Prop where
  history : ∃ (url : Url) (operations : List (Session.Operation Handler)),
    config.channelUrl channel = .ok url ∧ (∀ operation ∈ operations, operation.IsLent) ∧
      session = ({ channel } : Session Handler).after operations ∧
      connection.texts = (connectFrame (Session.hostName url)).encode ::
        (({ channel } : Session Handler).written operations).filterMap WireEvent.text?
  isOpen_eq : connection.isOpen = session.fault.isNone

theorem Carries.isHeld {config : Config} {channel : Channel} {session : Session Handler}
    {connection : Connection} (hcarries : Carries config channel session connection) :
    session.IsHeld := by
  obtain ⟨_, _, -, hlent, rfl, -⟩ := hcarries.history
  exact ((Session.isHeld_new channel).after hlent).1

theorem Carries.on_channel {config : Config} {channel : Channel} {session : Session Handler}
    {connection : Connection} (hcarries : Carries config channel session connection) :
    session.channel = channel := by
  obtain ⟨_, operations, -, -, rfl, -⟩ := hcarries.history
  exact Session.channel_after _ operations

/-- No session that is held has said farewell. -/
theorem Carries.ne_disconnect {config : Config} {channel : Channel} {session : Session Handler}
    {connection : Connection} (hcarries : Carries config channel session connection)
    {text : String} (hmem : text ∈ connection.texts) {frame : Frame}
    (hparse : Frame.parse text = .ok (some frame)) : frame.command ≠ .disconnect := by
  obtain ⟨url, operations, -, hlent, -, htexts⟩ := hcarries.history
  have hsent : ∃ sent : Frame, sent.command ≠ .disconnect ∧ text = sent.encode := by
    rw [htexts, List.mem_cons] at hmem
    rcases hmem with hhandshake | hwritten
    · exact ⟨connectFrame (Session.hostName url), nofun, hhandshake⟩
    · obtain ⟨event, hevent, htext⟩ := List.mem_filterMap.1 hwritten
      obtain ⟨sent, hcommand, rfl⟩ := Session.written_of_isLent _ hlent event hevent
      exact ⟨sent, hcommand, (Option.some.inj htext).symm⟩
  obtain ⟨sent, hcommand, rfl⟩ := hsent
  rw [Frame.command_of_parse_encode hparse]
  exact hcommand

/-- What the connections of a channel have to do with the session that is held there. -/
inductive Backs (config : Config) (channel : Channel) :
    Option (Session Handler) → List Connection → Prop
  | free {connections : List Connection} (hclosed : AllClosed connections) :
      Backs config channel none connections
  | held {session : Session Handler} {newest : Connection} {older : List Connection}
      (hcarries : Carries config channel session newest) (hclosed : AllClosed older) :
      Backs config channel (some session) (newest :: older)

/-- A session that is not connected has lost its connection. -/
theorem Backs.allClosed {config : Config} {channel : Channel} {session? : Option (Session Handler)}
    {connections : List Connection} (hbacks : Backs config channel session? connections)
    (hstale : ∀ stale ∈ session?, stale.isConnected = false) : AllClosed connections := by
  cases hbacks with
  | free hclosed => exact hclosed
  | @held session newest older hcarries hclosed =>
      refine List.forall_mem_cons.2 ⟨?_, hclosed⟩
      have hended := hstale session rfl
      rw [hcarries.isOpen_eq, Option.isNone_eq_false_iff, Option.isSome_iff_ne_none]
      intro hreached
      rw [hcarries.isHeld.connected hreached] at hended
      cases hended

/-! ## What every turn keeps -/

theorem opened_mem_map_wrote {written : List WireEvent} :
    LinkEvent.wrote .opened ∈ written.map .wrote ↔ .opened ∈ written := by
  simp

theorem filterMap_text?_wrote (written : List WireEvent) :
    (written.map LinkEvent.wrote).filterMap LinkEvent.text? =
      written.filterMap WireEvent.text? := by
  rw [List.filterMap_map]
  rfl

theorem arrivals_eq_nil_or_singleton (operation : Session.Operation Handler) :
    operation.arrivals = [] ∨ ∃ event : LinkEvent, operation.arrivals = [event] ∧
      event.text? = none ∧ event ≠ .wrote .opened := by
  cases operation with
  | receive event => exact .inr ⟨_, rfl, rfl, nofun⟩
  | lose reason => exact .inr ⟨_, rfl, rfl, nofun⟩
  | subscribe topic handler => exact .inl rfl
  | send destination payload => exact .inl rfl
  | disconnect => exact .inl rfl

theorem filterMap_text?_arrivals (operation : Session.Operation Handler) :
    operation.arrivals.filterMap LinkEvent.text? = [] := by
  rcases arrivals_eq_nil_or_singleton operation with hnone | ⟨only, hone, htext, -⟩
  · rw [hnone]
    rfl
  · rw [hone, List.filterMap_cons_none htext]
    rfl

theorem opened_not_mem_arrivals (operation : Session.Operation Handler) :
    .wrote .opened ∉ operation.arrivals := by
  rcases arrivals_eq_nil_or_singleton operation with hnone | ⟨only, hone, -, hquiet⟩
  · rw [hnone]
    exact List.not_mem_nil
  · rw [hone, List.mem_singleton]
    exact hquiet.symm

theorem any_ends_written (session : Session Handler) {use : Session.Operation Handler}
    (hlent : use.IsLent) :
    ((session.perform use).2.written.map LinkEvent.wrote).any LinkEvent.ends = false := by
  rw [List.any_eq_false]
  intro link hmem
  obtain ⟨event, hevent, rfl⟩ := List.mem_map.1 hmem
  rw [← Session.written_singleton] at hevent
  obtain ⟨frame, -, rfl⟩ :=
    session.written_of_isLent (List.forall_mem_singleton.2 hlent) event hevent
  nofun

theorem Carries.used {config : Config} {channel : Channel} {session : Session Handler}
    {newest : Connection} (hcarries : Carries config channel session newest)
    {use : Session.Operation Handler} (hlent : use.IsLent) :
    Carries config channel (session.perform use).1
      { texts := newest.texts ++ (session.perform use).2.written.filterMap WireEvent.text?
        isOpen := newest.isOpen && !use.arrivals.any LinkEvent.ends } := by
  constructor
  · obtain ⟨url, earlier, hurl, hearlier, rfl, htexts⟩ := hcarries.history
    refine ⟨url, earlier ++ [use], hurl,
      List.forall_mem_append.2 ⟨hearlier, List.forall_mem_singleton.2 hlent⟩,
      (Session.after_append _ earlier [use]).symm, ?_⟩
    rw [htexts, Session.written_append, Session.written_singleton, List.filterMap_append]
    rfl
  · rw [hcarries.isOpen_eq, (hcarries.isHeld.perform hlent).2]

theorem Backs.used {config : Config} {channel : Channel} {session : Session Handler}
    {connections : List Connection} (hbacks : Backs config channel (some session) connections)
    {use : Session.Operation Handler} (hlent : use.IsLent) :
    let events := (session.perform use).2.written.map LinkEvent.wrote ++ use.arrivals
    Backs config channel (some (session.perform use).1) (Connection.after connections events) ∧
      OpensAlone connections events := by
  intro events
  have hquiet : .wrote .opened ∉ events := by
    rw [List.mem_append, opened_mem_map_wrote]
    exact not_or.2 ⟨opened_not_mem_written session hlent, opened_not_mem_arrivals use⟩
  refine ⟨?_, opensAlone_of_quiet _ hquiet⟩
  cases hbacks with
  | held hcarries hclosed =>
      rw [after_cons_of_quiet hquiet, List.filterMap_append, filterMap_text?_wrote,
        filterMap_text?_arrivals, List.append_nil, List.any_append, any_ends_written session hlent,
        Bool.false_or]
      exact .held (hcarries.used hlent) hclosed

/-- A session that is torn down says farewell where its connection is open, and ends it. -/
theorem Carries.after_farewell {config : Config} {channel : Channel} {session : Session Handler}
    {newest : Connection} (hcarries : Carries config channel session newest)
    (older : List Connection) :
    Connection.after (newest :: older) ((farewell (some session)).map .wrote) =
      { texts := newest.texts ++ if newest.isOpen then [disconnectFrame.encode] else []
        isOpen := false } :: older := by
  have hquiet : .wrote .opened ∉ (farewell (some session)).map LinkEvent.wrote := by
    rw [opened_mem_map_wrote]
    exact opened_not_mem_farewell (some session)
  rw [after_cons_of_quiet hquiet, farewell, hcarries.isOpen_eq,
    Session.disconnect_of_writable hcarries.isHeld.writable]
  cases session.fault <;> rfl

theorem Backs.discarded {config : Config} {channel : Channel} {session : Session Handler}
    {connections : List Connection} (hbacks : Backs config channel (some session) connections) :
    let events := session.disconnect.2.map LinkEvent.wrote
    Backs config channel (none : Option (Session Handler)) (Connection.after connections events) ∧
      OpensAlone connections events := by
  intro events
  have hquiet : .wrote .opened ∉ events := by
    rw [opened_mem_map_wrote]
    exact opened_not_mem_farewell (some session)
  refine ⟨.free ?_, opensAlone_of_quiet _ hquiet⟩
  cases hbacks with
  | @held _ _ older hcarries hclosed =>
      have hafter := hcarries.after_farewell older
      rw [farewell] at hafter
      rw [hafter]
      exact List.forall_mem_cons.2 ⟨rfl, hclosed⟩

theorem Backs.opened {config : Config} {channel : Channel} {session? : Option (Session Handler)}
    {connections : List Connection} (hbacks : Backs config channel session? connections)
    {attempt : Attempt} {session : Session Handler} {log : List WireEvent}
    (hstale : ∀ stale ∈ session?, stale.isConnected = false)
    (hopened : Session.connect config channel attempt = (.ok session, log)) :
    let events := (farewell session? ++ log).map LinkEvent.wrote ++ attempt.events.map .came
    Backs config channel (some (session.after ((attempt.behind channel).map .receive)))
        (Connection.after connections events) ∧
      OpensAlone connections events := by
  intro events
  obtain ⟨url, hurl, hlog⟩ := Session.url_of_connect hopened
  let back : List LinkEvent := .wrote (.text (connectFrame (Session.hostName url)).encode) ::
    attempt.events.map .came
  have hevents : events = (farewell session?).map .wrote ++ .wrote .opened :: back := by
    simp [events, back, hlog]
  have hfront : .wrote .opened ∉ (farewell session?).map LinkEvent.wrote := by
    rw [opened_mem_map_wrote]
    exact opened_not_mem_farewell session?
  have hback : .wrote .opened ∉ back := by
    simp [back]
  obtain ⟨hclosed, hafter, halone⟩ := (hbacks.allClosed hstale).opened hfront hback
  rw [hevents, hafter]
  have hsession := Session.eq_of_connect hopened
  refine ⟨.held ⟨⟨url, (attempt.behind channel).map .receive, hurl,
    Session.isLent_of_mem_receives, by rw [hsession], ?_⟩, ?_⟩ hclosed, halone⟩
  · have hcame : (attempt.events.map LinkEvent.came).filterMap LinkEvent.text? = [] := by
      rw [List.filterMap_map, List.filterMap_eq_nil_iff]
      exact fun _ _ => rfl
    rw [Session.written_receives]
    simp only [back, List.filterMap_cons, hcame]
    rfl
  · rw [Session.isNone_fault_of_connect hopened, List.any_cons]
    rfl

theorem Backs.denied {config : Config} {channel : Channel} {session? : Option (Session Handler)}
    {connections : List Connection} (hbacks : Backs config channel session? connections)
    {attempt : Attempt} {error : SessionError} {written : List WireEvent}
    (hdenies : Denies config channel attempt session? error written) :
    let events := written.map LinkEvent.wrote ++
      attempted (some attempt) written (none : Option (Session Handler))
    Backs config channel (none : Option (Session Handler)) (Connection.after connections events) ∧
      OpensAlone connections events := by
  intro events
  obtain ⟨hstale, hfailed⟩ := hdenies
  next log =>
  have hclosed := hbacks.allClosed hstale
  have hfarewell := opened_not_mem_farewell session?
  have hsilent (hquiet : .opened ∉ log) :
      Backs config channel (none : Option (Session Handler))
          (Connection.after connections events) ∧ OpensAlone connections events := by
    have hnone : .wrote .opened ∉ events := by
      simp [events, attempted, hquiet, hfarewell]
    exact ⟨.free (hclosed.after_of_quiet hnone), opensAlone_of_quiet _ hnone⟩
  cases Session.shows_connect hfailed with
  | invalid hurl => exact hsilent List.not_mem_nil
  | unreachable hurl => exact hsilent List.not_mem_nil
  | refused hurl => exact hsilent (by simp)
  | @accepted url came hurl =>
      let back : List LinkEvent := .wrote (.text (connectFrame (Session.hostName url)).encode) ::
        (came.map .came ++ [.abandoned])
      have hevents : events = (farewell session?).map .wrote ++ .wrote .opened :: back := by
        simp [events, back, attempted, Attempt.events, encode_connectFrame]
      have hback : .wrote .opened ∉ back := by
        simp [back]
      obtain ⟨hstill, hafter, halone⟩ :=
        hclosed.opened (opened_mem_map_wrote.not.2 hfarewell) hback
      rw [hevents, hafter]
      refine ⟨.free (List.forall_mem_cons.2 ⟨?_, hstill⟩), halone⟩
      simp [back, LinkEvent.ends]

/-- Every turn leaves the newest connection to the session that is held, and closes it before
another one is opened. -/
theorem Backs.turn {config : Config} {channel : Channel} {before after : Option (Session Handler)}
    {events : List LinkEvent} {connections : List Connection}
    (hbacks : Backs config channel before connections)
    (hturn : Turn config channel before events after) :
    Backs config channel after (Connection.after connections events) ∧
      OpensAlone connections events := by
  cases hturn with
  | idle => exact ⟨hbacks, trivial⟩
  | unheard use =>
      cases hbacks with
      | free hclosed =>
          have hquiet := opened_not_mem_arrivals use
          exact ⟨.free (hclosed.after_of_quiet hquiet), opensAlone_of_quiet _ hquiet⟩
  | used hlent => exact hbacks.used hlent
  | discarded => exact hbacks.discarded
  | opened hstale hopened => exact hbacks.opened hstale hopened
  | denied hdenies => exact hbacks.denied hdenies

/-- The same holds in every run. -/
theorem Backs.run {config : Config} {channel : Channel} {manager : Manager Handler}
    {connections : List Connection}
    (hbacks : Backs config channel (manager.session? channel) connections)
    (operations : List (Operation Handler)) :
    Backs config channel ((manager.after config operations).session? channel)
        (Connection.after connections (manager.traffic config channel operations)) ∧
      OpensAlone connections (manager.traffic config channel operations) := by
  induction operations generalizing manager connections with
  | nil => exact ⟨hbacks, trivial⟩
  | cons operation rest ih =>
      obtain ⟨hnext, hfirst⟩ := hbacks.turn (manager.turn_happens config channel operation)
      obtain ⟨hlast, hrest⟩ := ih hnext
      rw [traffic, Connection.after_append, opensAlone_append]
      exact ⟨hlast, hfirst, hrest⟩

/-! ## Connections of the past -/

/-- What happens where no session is held brings no text to a connection, or it opens one. -/
theorem Turn.unheld {config : Config} {channel : Channel} {after : Option (Session Handler)}
    {events : List LinkEvent} (hturn : Turn config channel none events after) :
    (∀ event ∈ events, event.text? = none ∧ event ≠ .wrote .opened) ∨
      ∃ back, events = .wrote .opened :: back := by
  cases hturn with
  | idle => exact .inl (List.forall_mem_nil _)
  | unheard use =>
      left
      intro event hmem
      rcases arrivals_eq_nil_or_singleton use with hnone | ⟨only, hone, htext, hquiet⟩
      · rw [hnone] at hmem
        cases hmem
      · rw [hone, List.mem_singleton] at hmem
        rw [hmem]
        exact ⟨htext, hquiet⟩
  | opened hstale hopened =>
      obtain ⟨url, -, hlog⟩ := Session.url_of_connect hopened
      rw [hlog]
      exact .inr ⟨_, rfl⟩
  | denied hdenies =>
      obtain ⟨hstale, hfailed⟩ := hdenies
      cases Session.shows_connect hfailed with
      | invalid hurl => exact .inl (List.forall_mem_nil _)
      | unreachable hurl => exact .inl (List.forall_mem_nil _)
      | refused hurl =>
          left
          intro event hmem
          have hrefused : event = .wrote .refused := by
            simpa [farewell, attempted] using hmem
          rw [hrefused]
          exact ⟨rfl, by simp⟩
      | accepted hurl => exact .inr ⟨_, rfl⟩

/-- What happens leaves all connections but the newest one as they are. -/
theorem after_cons_append (newest : Connection) (older old : List Connection)
    (events : List LinkEvent) :
    Connection.after (newest :: older ++ old) events =
      Connection.after (newest :: older) events ++ old := by
  induction events generalizing newest older with
  | nil => rfl
  | cons event rest ih =>
      by_cases hopened : event = .wrote .opened
      · rw [hopened]
        exact ih {} (newest :: older)
      · have hstep (connections : List Connection) :
            Connection.after (newest :: connections) (event :: rest) =
              Connection.after (newest.take event :: connections) rest :=
          congrArg (Connection.after · rest) (step_of_ne hopened (newest :: connections))
        rw [List.cons_append, hstep, hstep]
        exact ih _ older

/-- Nothing happens any more on connections that are closed and have no session. -/
theorem Backs.after_append {config : Config} {channel : Channel}
    {before after : Option (Session Handler)} {events : List LinkEvent}
    {connections old : List Connection} (hbacks : Backs config channel before connections)
    (hold : AllClosed old) (hturn : Turn config channel before events after) :
    Connection.after (connections ++ old) events = Connection.after connections events ++ old := by
  cases connections with
  | cons newest older => exact after_cons_append newest older old events
  | nil =>
      cases hbacks with
      | free hclosed =>
          rcases hturn.unheld with hsilent | ⟨back, rfl⟩
          · have hquiet : .wrote .opened ∉ events := fun hmem => (hsilent _ hmem).2 rfl
            have htexts : events.filterMap LinkEvent.text? = [] :=
              List.filterMap_eq_nil_iff.2 fun event hmem => (hsilent event hmem).1
            rw [after_nil_of_quiet hquiet, List.nil_append]
            cases old with
            | nil => exact after_nil_of_quiet hquiet
            | cons newest older =>
                have hended := hold newest List.mem_cons_self
                rw [after_cons_of_quiet hquiet, htexts, List.append_nil, hended, Bool.false_and,
                  ← hended]
          · exact after_cons_append {} [] old back

theorem Backs.run_append {config : Config} {channel : Channel} {manager : Manager Handler}
    {connections old : List Connection}
    (hbacks : Backs config channel (manager.session? channel) connections) (hold : AllClosed old)
    (operations : List (Operation Handler)) :
    Connection.after (connections ++ old) (manager.traffic config channel operations) =
      Connection.after connections (manager.traffic config channel operations) ++ old := by
  induction operations generalizing manager connections with
  | nil => rfl
  | cons operation rest ih =>
      have hturn := manager.turn_happens config channel operation
      rw [traffic, Connection.after_append, Connection.after_append, hbacks.after_append hold hturn]
      exact ih (hbacks.turn hturn).1

/-! ## Sessions whose connection was not lost unnoticed -/

theorem lost_not_mem_attempted (attempt? : Option Attempt) (written : List WireEvent)
    (session? : Option (Session Handler)) : .lost ∉ attempted attempt? written session? := by
  unfold attempted
  split
  · split <;> simp
  · nofun

theorem lose_mem_of_traffic {config : Config} {channel : Channel} {manager : Manager Handler}
    {operations : List (Operation Handler)}
    (hlost : .lost ∈ manager.traffic config channel operations) :
    ∃ reason, .lose channel reason ∈ operations := by
  induction operations generalizing manager with
  | nil => cases hlost
  | cons operation rest ih =>
      rw [traffic, List.mem_append] at hlost
      rcases hlost with hfirst | hrest
      · have harrivals : .lost ∈ operation.arrivals channel := by
          simpa [happens, lost_not_mem_attempted] using hfirst
        cases operation with
        | lose other reason =>
            by_cases hother : other = channel
            · exact ⟨reason, hother ▸ List.mem_cons_self⟩
            · simp [Operation.arrivals, Operation.use?, hother] at harrivals
        | _ => simp [Operation.arrivals, Operation.use?, Session.Operation.arrivals] at harrivals
      · obtain ⟨reason, hmem⟩ := ih hrest
        exact ⟨reason, List.mem_cons_of_mem _ hmem⟩

/-- Sessions that a turn leaves count as connected only if they carry frames, unless a connection
was lost unnoticed. -/
theorem Turn.isLiveIfConnected {config : Config} {channel : Channel}
    {before after : Option (Session Handler)} {events : List LinkEvent}
    (hturn : Turn config channel before events after) (hkept : .lost ∉ events)
    (hlive : ∀ session ∈ before, session.IsLiveIfConnected) :
    ∀ session ∈ after, session.IsLiveIfConnected := by
  cases hturn with
  | idle => exact hlive
  | unheard use => nofun
  | discarded => nofun
  | denied hdenies => nofun
  | @used session use hlent =>
      rintro _ ⟨⟩
      apply (hlive session rfl).perform
      rintro reason rfl
      exact hkept (List.mem_append_right _ (List.mem_singleton_self _))
  | opened hstale hopened =>
      rintro _ ⟨⟩
      apply Session.IsLiveIfConnected.after (Session.isFresh_of_connect hopened).isLiveIfConnected
      intro operation hmem reason hlost
      obtain ⟨event, -, hreceive⟩ := List.mem_map.1 hmem
      rw [hlost] at hreceive
      cases hreceive

theorem isLiveIfConnected_after {config : Config} {channel : Channel} {manager : Manager Handler}
    {operations : List (Operation Handler)}
    (hkept : .lost ∉ manager.traffic config channel operations)
    (hlive : ∀ session ∈ manager.session? channel, session.IsLiveIfConnected) :
    ∀ session ∈ (manager.after config operations).session? channel,
      session.IsLiveIfConnected := by
  induction operations generalizing manager with
  | nil => exact hlive
  | cons operation rest ih =>
      rw [traffic, List.mem_append, not_or] at hkept
      have hturn := manager.turn_happens config channel operation
      exact ih hkept.2 (hturn.isLiveIfConnected hkept.1 hlive)

/-! ## Ownership -/

/-- The manager after a run that starts without any session. -/
abbrev reached (config : Config) (operations : List (Operation Handler)) : Manager Handler :=
  (empty : Manager Handler).after config operations

/-- What happens on the connections of a channel in a run that starts without any session. -/
abbrev trafficOf (config : Config) (channel : Channel) (operations : List (Operation Handler)) :
    List LinkEvent :=
  (empty : Manager Handler).traffic config channel operations

/-- The connections of a channel after a run, the newest one first. -/
abbrev connectionsOf (config : Config) (channel : Channel) (operations : List (Operation Handler)) :
    List Connection :=
  Connection.after [] (trafficOf config channel operations)

/-- What opening a channel without a connected session comes to: one attempt is made, and either it
is granted and the session that it brings is held in place of the one that was there, or no session
is. Nothing but the attempt is written, since the connection of the session that was there has
ended. -/
structure Replaces (config : Config) (channel : Channel) (attempt : Attempt)
    (after : Manager Handler) (outcome : Outcome Handler) : Prop where
  shown : ∃ shown, attempt.Shows config channel shown ∧ outcome.log = onChannel channel shown
  /-- The session that is held is a new one. It is connected unless the server has ended the
  connection right behind its grant. -/
  granted : outcome.result = .ok () → ∃ before grant behind session,
    attempt = .accepted (before ++ grant :: behind) ∧ (∀ event ∈ before, event.IsIdle) ∧
      grant.Grants ∧ after.session? channel = some session ∧ outcome.session? = some session ∧
      session.channel = channel ∧ session.subscriptions = {} ∧
      (session.isConnected = true ↔
        ∀ event ∈ behind, event ≠ .close ∧ ∀ reason, event ≠ .broken reason)
  failed : ∀ error, outcome.result = .error error →
    after.session? channel = none ∧ outcome.session? = none

/-- What a manager guarantees for a channel after a run. -/
structure Owns (config : Config) (channel : Channel) (operations : List (Operation Handler)) :
    Prop where
  /-- At no moment is more than one connection open. -/
  one_open : ∀ moment, moment <+: trafficOf config channel operations →
    ((Connection.after [] moment).filter (·.isOpen)).length ≤ 1
  /-- The session that is held is the one of the newest connection. -/
  held : ∀ session, (reached config operations).session? channel = some session →
    session.channel = channel ∧ ∃ newest older,
      connectionsOf config channel operations = newest :: older ∧
        (newest.isOpen = true → session.isConnected = true) ∧
        ((∀ reason, .lose channel reason ∉ operations) → newest.isOpen = session.isConnected)
  /-- Without a session no connection is open. -/
  free : (reached config operations).session? channel = none →
    ∀ connection ∈ connectionsOf config channel operations, connection.isOpen = false
  /-- A session that is connected is lent out again, and nothing else is done. -/
  reuses : ∀ attempt session, (reached config operations).session? channel = some session →
    session.isConnected = true →
      (reached config operations).perform config (.openChannel channel attempt) =
        (reached config operations, { session? := some session })
  replaces : ∀ attempt, (reached config operations).isConnected channel = false →
    let opened := (reached config operations).perform config (.openChannel channel attempt)
    Replaces config channel attempt opened.1 opened.2
  /-- Opening another channel does nothing to this one. -/
  confined : ∀ other attempt, other ≠ channel →
    let manager := reached config operations
    (manager.perform config (.openChannel other attempt)).1.session? channel =
        manager.session? channel ∧
      manager.happens config channel (.openChannel other attempt) = []
  /-- Tearing down all sessions leaves none. -/
  cleared : ((reached config operations).perform config .disconnectAll).1.session? channel = none
  /-- Then a session says farewell where its connection is open, for the first time and as the last
  that is written there, whatever is done with the manager later. It is open when the session is
  connected, unless a connection was lost unnoticed: then nothing more can be written there. -/
  parts : ∀ session, (reached config operations).session? channel = some session →
    ∃ newest older farewell, connectionsOf config channel operations = newest :: older ∧
      ((∀ reason, .lose channel reason ∉ operations) → newest.isOpen = session.isConnected) ∧
      (∀ text ∈ newest.texts, ∀ frame, Frame.parse text = .ok (some frame) →
        frame.command ≠ .disconnect) ∧
      (newest.isOpen = true → ∃ last, farewell = [last] ∧ ReadsAs last .disconnect [] "") ∧
      (newest.isOpen = false → farewell = []) ∧
      ∀ later, connectionsOf config channel (operations ++ .disconnectAll :: later) =
        connectionsOf config channel later ++
          { texts := newest.texts ++ farewell, isOpen := false } :: older

theorem backs_reached (config : Config) (channel : Channel)
    (operations : List (Operation Handler)) :
    Backs config channel ((reached config operations).session? channel)
        (connectionsOf config channel operations) ∧
      OpensAlone [] (trafficOf config channel operations) :=
  Backs.run (.free (List.forall_mem_nil _)) operations

/-- The session that is held has the newest connection. -/
theorem exists_carries {config : Config} {channel : Channel} {operations : List (Operation Handler)}
    {session : Session Handler}
    (hsession : (reached config operations).session? channel = some session) :
    ∃ newest older, connectionsOf config channel operations = newest :: older ∧
      Carries config channel session newest ∧ AllClosed older := by
  have hbacks := (backs_reached config channel operations).1
  rw [hsession] at hbacks
  generalize connectionsOf config channel operations = connections at hbacks
  cases hbacks with
  | held hcarries hclosed => exact ⟨_, _, rfl, hcarries, hclosed⟩

theorem isLiveIfConnected_reached {config : Config} {channel : Channel}
    {operations : List (Operation Handler)}
    (hkept : ∀ reason, .lose channel reason ∉ operations) {session : Session Handler}
    (hsession : (reached config operations).session? channel = some session) :
    session.IsLiveIfConnected := by
  refine isLiveIfConnected_after (fun hlost => ?_) (by rintro _ ⟨⟩) session hsession
  obtain ⟨reason, hmem⟩ := lose_mem_of_traffic hlost
  exact hkept reason hmem

/-- The session that is held counts as connected while its connection is open. -/
theorem Carries.isConnected_of_isOpen {config : Config} {channel : Channel}
    {session : Session Handler} {connection : Connection}
    (hcarries : Carries config channel session connection) (hopen : connection.isOpen = true) :
    session.isConnected = true := by
  rw [hcarries.isOpen_eq, Option.isNone_iff_eq_none] at hopen
  exact hcarries.isHeld.connected hopen

/-- It counts as connected just as long, unless a connection was lost unnoticed. -/
theorem Carries.isOpen_eq_isConnected {config : Config} {channel : Channel}
    {operations : List (Operation Handler)} {session : Session Handler} {connection : Connection}
    (hcarries : Carries config channel session connection)
    (hkept : ∀ reason, .lose channel reason ∉ operations)
    (hsession : (reached config operations).session? channel = some session) :
    connection.isOpen = session.isConnected := by
  rw [Bool.eq_iff_iff]
  refine ⟨hcarries.isConnected_of_isOpen, fun hconnected => ?_⟩
  rw [hcarries.isOpen_eq, (isLiveIfConnected_reached hkept hsession hconnected).reached]
  rfl

theorem perform_disconnectAll (manager : Manager Handler) (config : Config) :
    (manager.perform config .disconnectAll).1 = empty := by
  change manager.disconnectAll.1 = empty
  rw [disconnectAll_eq]
  simp only [Manager.set, empty]
  congr 1
  funext channel
  cases channel <;> rfl

theorem perform_openChannel_of_ok {manager : Manager Handler} {config : Config} {channel : Channel}
    {attempt : Attempt} {session : Session Handler} {written : List WireEvent}
    (hopen : manager.openChannel config channel attempt =
      (manager.set channel (some session), .ok (), onChannel channel written)) :
    manager.perform config (.openChannel channel attempt) =
      (manager.set channel (some session),
        { session? := some session, log := onChannel channel written }) := by
  rw [perform, hopen]
  simp only [session?_set, if_true]
  rfl

/-- A session that is held but not connected has nothing to say when it is torn down. -/
theorem farewell_of_not_connected {config : Config} {channel : Channel}
    {operations : List (Operation Handler)}
    (hended : (reached config operations).isConnected channel = false) :
    farewell ((reached config operations).session? channel) = [] := by
  cases hsession : (reached config operations).session? channel with
  | none => rfl
  | some session =>
      obtain ⟨newest, older, -, hcarries, -⟩ := exists_carries hsession
      have hstale := isConnected_eq_false.1 hended session hsession
      cases hfault : session.fault with
      | none =>
          rw [hcarries.isHeld.connected hfault] at hstale
          cases hstale
      | some reason =>
          rw [farewell, Session.disconnect_of_writable hcarries.isHeld.writable, hfault]
          rfl

/-- Opening a channel of which the session is not connected replaces the session. -/
theorem replaces_of_not_connected {config : Config} {channel : Channel}
    {operations : List (Operation Handler)}
    (hended : (reached config operations).isConnected channel = false) (attempt : Attempt) :
    let opened := (reached config operations).perform config (.openChannel channel attempt)
    Replaces config channel attempt opened.1 opened.2 := by
  have hsilent := farewell_of_not_connected hended
  have hstale := isConnected_eq_false.1 hended
  generalize reached config operations = manager at hsilent hstale ⊢
  rcases manager.openChannel_cases config channel attempt with
    ⟨session, written, hprovides, hopen⟩ | ⟨error, written, hdenies, hopen⟩
  · rw [perform_openChannel_of_ok hopen]
    generalize manager.session? channel = stale? at hstale hprovides hsilent
    cases hprovides with
    | kept hconnected =>
        rw [hstale session rfl] at hconnected
        cases hconnected
    | @opened _ fresh shown _ hopened =>
        have hlog : onChannel channel (farewell stale? ++ shown) = onChannel channel shown := by
          rw [hsilent, List.nil_append]
        refine ⟨⟨shown, Session.shows_connect hopened, hlog⟩, ?_, fun _ hfailed => by cases hfailed⟩
        intro _
        obtain ⟨before, grant, behind, hattempt, hidle, hgrants, hbehind⟩ :=
          Session.exists_grant_of_connect hopened
        have hfresh := Session.eq_of_connect hopened
        have htaken := (Session.isFresh_of_connect hopened).receiveEarly (attempt.behind channel)
        rw [Session.receiveEarly_eq_after] at htaken
        refine ⟨before, grant, behind, _, hattempt, hidle, hgrants, if_pos rfl, rfl,
          htaken.on_channel, htaken.unsubscribed, ?_⟩
        rw [hfresh, hbehind]
        simp only [(Session.isHeld_new channel).isConnected_receives, ends_came_eq_false, true_and]
  · have hperform : manager.perform config (.openChannel channel attempt) =
        (manager.set channel none,
          { result := .error error, log := onChannel channel written }) := by
      rw [perform, hopen]
      rfl
    rw [hperform]
    generalize manager.session? channel = stale? at hdenies hsilent
    cases hdenies with
    | @intro shown _ hfailed =>
        have hlog : onChannel channel (farewell stale? ++ shown) = onChannel channel shown := by
          rw [hsilent, List.nil_append]
        refine ⟨⟨shown, Session.shows_connect hfailed, hlog⟩, fun hopened => (by cases hopened), ?_⟩
        intro _ _
        exact ⟨if_pos rfl, rfl⟩

/-- A session that is closed by the server, an attempt to replace it that fails, and one that is
granted. -/
example :
    let operations : List (Operation Nat) :=
      [.openChannel .control grantedAttempt, .openChannel .control grantedAttempt,
        .receive .control .close, .openChannel .control (.accepted [.ping, .close]),
        .openChannel .control grantedAttempt]
    (connectionsOf Session.localConfig .control operations).map (·.isOpen) =
      [true, false, false] := by
  decide +kernel

end Manager

end ClassroomClient
