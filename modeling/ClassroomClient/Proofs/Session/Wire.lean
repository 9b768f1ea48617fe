/-
# What a session writes

Everything that a session puts on its connection can be told from the calls that it granted: the
handshake, one frame for every granted call that asks for something new, in the order of the calls,
and at most one farewell behind them. Nothing that comes in adds to it, and nothing follows the end
of the connection.

An operation either leaves the session connected, with tables that hold the topics subscribed so
far, or it ends the connection for good. `Serves` is what the first kind keeps.
-/

import ClassroomClient.Proofs.Session.Call
import ClassroomClient.Proofs.Session.Run

namespace ClassroomClient

open Stomp

namespace Session

variable {Handler : Type}

/-- What an operation asks for. -/
def Operation.call? : Operation Handler → Option Call
  | .subscribe topic _ => some (.subscription topic)
  | .send destination payload => some (.message destination payload)
  | _ => none

/-- What an operation asks for, if the session grants it. -/
def granted? (operation : Operation Handler) (outcome : Outcome Handler) : Option Call :=
  match outcome.result with
  | .ok () => operation.call?
  | .error _ => none

/-- The calls of a run that the session grants, in their order. -/
def granted (session : Session Handler) (operations : List (Operation Handler)) : List Call :=
  (operations.zip (session.outcomes operations)).filterMap fun (operation, outcome) =>
    granted? operation outcome

/-- What is written in a run. -/
def written (session : Session Handler) (operations : List (Operation Handler)) :
    List WireEvent :=
  (session.outcomes operations).flatMap (·.written)

/-- The texts that are written in a run. -/
def texts (session : Session Handler) (operations : List (Operation Handler)) : List String :=
  (session.written operations).filterMap WireEvent.text?

theorem granted_cons (session : Session Handler) (operation : Operation Handler)
    (rest : List (Operation Handler)) :
    session.granted (operation :: rest) =
      (granted? operation (session.perform operation).2).toList ++
        (session.perform operation).1.granted rest := by
  rw [granted, outcomes, List.zip_cons_cons, List.filterMap_cons]
  dsimp only
  split
  · next hnone => rw [hnone]; rfl
  · next call hsome => rw [hsome]; rfl

theorem texts_cons (session : Session Handler) (operation : Operation Handler)
    (rest : List (Operation Handler)) :
    session.texts (operation :: rest) =
      (session.perform operation).2.written.filterMap WireEvent.text? ++
        (session.perform operation).1.texts rest := by
  rw [texts, written, outcomes, List.flatMap_cons, List.filterMap_append]
  rfl

/-! ## Sessions that have ended -/

/-- A session that is not connected grants nothing and stays as it is, but for a farewell if it was
not torn down yet. -/
theorem perform_of_not_connected {session : Session Handler} (hended : session.isConnected = false)
    (operation : Operation Handler) :
    (session.perform operation).1.isConnected = false ∧
      (operation.call?.isSome → (session.perform operation).2 =
        { result := .error (.notConnected session.channel) }) := by
  cases operation with
  | subscribe topic handler =>
      rw [perform_subscribe, subscribe_of_not_connected hended]
      exact ⟨hended, fun _ => rfl⟩
  | send destination payload =>
      rw [perform_send, send_of_not_connected hended]
      exact ⟨hended, fun _ => rfl⟩
  | disconnect =>
      refine ⟨?_, nofun⟩
      rw [perform_disconnect]
      cases hwritable : session.isWritable with
      | true => rw [disconnect_of_writable hwritable]
      | false =>
          rw [disconnect_of_not_writable hwritable]
          exact hended
  | receive event =>
      refine ⟨?_, nofun⟩
      rw [perform_receive]
      rcases session.receive_eq event with hsame | ⟨reason, hbroken⟩
      · rw [hsame]
        exact hended
      · rw [hbroken]
  | lose reason => exact ⟨hended, nofun⟩

/-- Once a session is not connected it stays so. -/
theorem isConnected_after {session : Session Handler} (hended : session.isConnected = false)
    (operations : List (Operation Handler)) : (session.after operations).isConnected = false := by
  induction operations generalizing session with
  | nil => exact hended
  | cons operation rest ih => exact ih (perform_of_not_connected hended operation).1

theorem granted?_of_not_connected {session : Session Handler}
    (hended : session.isConnected = false) (operation : Operation Handler) :
    granted? operation (session.perform operation).2 = none := by
  cases hcall : operation.call? with
  | none => unfold granted?; split <;> simp [hcall]
  | some call =>
      have hrefused := (perform_of_not_connected hended operation).2 (by rw [hcall]; rfl)
      rw [hrefused]
      rfl

theorem granted_of_not_connected {session : Session Handler} (hended : session.isConnected = false)
    (operations : List (Operation Handler)) : session.granted operations = [] := by
  induction operations generalizing session with
  | nil => rfl
  | cons operation rest ih =>
      rw [granted_cons, granted?_of_not_connected hended,
        ih (perform_of_not_connected hended operation).1]
      rfl

/-- Only tearing down writes on a session that is not connected, and only the first time. -/
theorem texts_perform_of_not_connected {session : Session Handler}
    (hended : session.isConnected = false) (operation : Operation Handler) :
    ((session.perform operation).2.written.filterMap WireEvent.text? = [] ∧
        (session.perform operation).1.isWritable = session.isWritable) ∨
      (session.isWritable = true ∧ (session.perform operation).1.isWritable = false ∧
        ((session.perform operation).2.written.filterMap WireEvent.text? = [] ∨
          (session.perform operation).2.written.filterMap WireEvent.text? =
            [disconnectFrame.encode])) := by
  cases operation with
  | subscribe topic handler =>
      rw [perform_subscribe, subscribe_of_not_connected hended]
      exact .inl ⟨rfl, rfl⟩
  | send destination payload =>
      rw [perform_send, send_of_not_connected hended]
      exact .inl ⟨rfl, rfl⟩
  | disconnect =>
      rw [perform_disconnect]
      cases hwritable : session.isWritable with
      | false =>
          rw [disconnect_of_not_writable hwritable]
          exact .inl ⟨rfl, hwritable⟩
      | true =>
          rw [disconnect_of_writable hwritable]
          refine .inr ⟨rfl, rfl, ?_⟩
          dsimp only
          split
          · exact .inr rfl
          · exact .inl rfl
  | receive event =>
      rw [perform_receive]
      rcases session.receive_eq event with hsame | ⟨reason, hbroken⟩
      · rw [hsame]
        exact .inl ⟨rfl, rfl⟩
      · rw [hbroken]
        exact .inl ⟨rfl, rfl⟩
  | lose reason => exact .inl ⟨rfl, rfl⟩

/-- A session that was torn down writes nothing. -/
theorem texts_of_not_writable {session : Session Handler} (hended : session.isConnected = false)
    (hclosed : session.isWritable = false) (operations : List (Operation Handler)) :
    session.texts operations = [] := by
  induction operations generalizing session with
  | nil => rfl
  | cons operation rest ih =>
      have hnext := (perform_of_not_connected hended operation).1
      rcases texts_perform_of_not_connected hended operation with
        ⟨hsilent, hkept⟩ | ⟨hopen, _, _⟩
      · rw [texts_cons, hsilent, ih hnext (hkept.trans hclosed)]
        rfl
      · rw [hclosed] at hopen
        cases hopen

/-- What is still written after the end of the connection: a farewell at most. -/
theorem texts_of_not_connected {session : Session Handler} (hended : session.isConnected = false)
    (operations : List (Operation Handler)) :
    session.texts operations = [] ∨ session.texts operations = [disconnectFrame.encode] := by
  induction operations generalizing session with
  | nil => exact .inl rfl
  | cons operation rest ih =>
      have hnext := (perform_of_not_connected hended operation).1
      rw [texts_cons]
      rcases texts_perform_of_not_connected hended operation with ⟨hsilent, _⟩ | ⟨_, hclosed, hlast⟩
      · rw [hsilent]
        exact ih hnext
      · rw [texts_of_not_writable hnext hclosed rest, List.append_nil]
        exact hlast

/-! ## Sessions that are connected -/

/-- What the tables of a connected session say of the topics that were subscribed on it. -/
structure Serves (session : Session Handler) (topics : List String) : Prop where
  writable : session.isWritable = true
  counted : session.subscriptions.nextId = .ofNat topics.length
  handled : ∀ topic, session.subscriptions.handlers.contains topic = true ↔ topic ∈ topics

/-- The session goes on with the topics of what it has granted, and that is what it has written. -/
structure GoesOn (topics : List String) (call? : Option Call)
    (result : Session Handler × Outcome Handler) : Prop where
  connected : result.1.isConnected = true
  serves : result.1.Serves (topicsOf topics call?.toList)
  wrote : result.2.written.filterMap WireEvent.text? =
    (requested topics call?.toList).map Frame.encode

/-- The session ends without having granted anything, and at most with a farewell. -/
structure Ends (call? : Option Call) (result : Session Handler × Outcome Handler) : Prop where
  ended : result.1.isConnected = false
  refused : call? = none
  wrote : result.2.written.filterMap WireEvent.text? = [] ∨
    (result.2.written.filterMap WireEvent.text? = [disconnectFrame.encode] ∧
      result.1.isWritable = false)

theorem Serves.register {session : Session Handler} {topics : List String}
    (hserves : session.Serves topics) (topic : String) (handler : Handler) :
    Serves { session with subscriptions := (session.subscriptions.register topic handler).1 }
      ((Call.subscription topic).topicsAfter topics) := by
  obtain ⟨hwritable, hcounted, hhandled⟩ := hserves
  by_cases hold : topic ∈ topics
  · have hcontains := (hhandled topic).2 hold
    rw [Call.topicsAfter, if_pos hold, Subscriptions.register, if_pos hcontains]
    refine ⟨hwritable, hcounted, ?_⟩
    intro name
    rw [Dictionary.contains_insert, hhandled]
    constructor
    · rintro (rfl | hname)
      · exact hold
      · exact hname
    · exact .inr
  · have hcontains : ¬ session.subscriptions.handlers.contains topic = true :=
      fun h => hold ((hhandled topic).1 h)
    rw [Call.topicsAfter, if_neg hold, Subscriptions.register, if_neg hcontains]
    refine ⟨hwritable, ?_, ?_⟩
    · dsimp only
      rw [hcounted, List.length_append, List.length_singleton, UInt32.ofNat_add]
      rfl
    · intro name
      rw [Dictionary.contains_insert, hhandled, List.mem_append, List.mem_singleton]
      exact Or.comm

/-- A subscription goes on, or it ends the session when its frame cannot be written. -/
theorem Serves.subscribe {session : Session Handler} {topics : List String}
    (hserves : session.Serves topics) (hconnected : session.isConnected = true) (topic : String)
    (handler : Handler) :
    let operation : Operation Handler := .subscribe topic handler
    GoesOn topics (granted? operation (session.perform operation).2) (session.perform operation) ∨
      Ends (granted? operation (session.perform operation).2) (session.perform operation) := by
  intro operation
  have hregistered := hserves.register topic handler
  rw [perform_subscribe]
  by_cases hold : topic ∈ topics
  · have hframes : requested topics [.subscription topic] = [] := by
      simp [requested, Call.frames, hold]
    rw [subscribe_of_contains hconnected ((hserves.handled topic).2 hold)]
    refine .inl ⟨hconnected, hregistered, ?_⟩
    change [] = (requested topics [.subscription topic]).map Frame.encode
    rw [hframes]
    rfl
  · have hnew : session.subscriptions.handlers.contains topic = false := by
      rw [← Bool.not_eq_true, hserves.handled]
      exact hold
    have hframes : requested topics [.subscription topic] =
        [subscribeFrame (subscriptionId session.subscriptions.nextId) topic] := by
      simp [requested, Call.frames, hold, hserves.counted]
    rw [subscribe_of_not_contains hconnected hnew]
    rcases write_of_writable hregistered.writable
        (subscribeFrame (subscriptionId session.subscriptions.nextId) topic) with
      hwrite | ⟨reason, hwrite⟩
    · rw [hwrite]
      refine .inl ⟨hconnected, hregistered, ?_⟩
      change _ = (requested topics [.subscription topic]).map Frame.encode
      rw [hframes]
      rfl
    · rw [hwrite]
      exact .inr ⟨rfl, rfl, .inl rfl⟩

theorem Serves.send {session : Session Handler} {topics : List String}
    (hserves : session.Serves topics) (hconnected : session.isConnected = true)
    (destination payload : String) :
    let operation : Operation Handler := .send destination payload
    GoesOn topics (granted? operation (session.perform operation).2) (session.perform operation) ∨
      Ends (granted? operation (session.perform operation).2) (session.perform operation) := by
  intro operation
  rw [perform_send, send_of_connected hconnected]
  rcases write_of_writable hserves.writable (sendFrame destination payload) with
    hwrite | ⟨reason, hwrite⟩
  · rw [hwrite]
    exact .inl ⟨hconnected, hserves, rfl⟩
  · rw [hwrite]
    exact .inr ⟨rfl, rfl, .inl rfl⟩

/-- Every operation on a connected session goes on or ends it. -/
theorem Serves.perform {session : Session Handler} {topics : List String}
    (hserves : session.Serves topics) (hconnected : session.isConnected = true)
    (operation : Operation Handler) :
    GoesOn topics (granted? operation (session.perform operation).2) (session.perform operation) ∨
      Ends (granted? operation (session.perform operation).2) (session.perform operation) := by
  cases operation with
  | subscribe topic handler => exact hserves.subscribe hconnected topic handler
  | send destination payload => exact hserves.send hconnected destination payload
  | disconnect =>
      right
      rw [perform_disconnect, disconnect_of_writable hserves.writable]
      refine ⟨rfl, rfl, ?_⟩
      dsimp only
      split
      · exact .inr ⟨rfl, rfl⟩
      · exact .inl rfl
  | receive event =>
      rw [perform_receive]
      rcases session.receive_eq event with hsame | ⟨reason, hended⟩
      · rw [hsame]
        exact .inl ⟨hconnected, hserves, rfl⟩
      · rw [hended]
        exact .inr ⟨rfl, rfl, .inl rfl⟩
  | lose reason =>
      exact .inl ⟨hconnected, ⟨hserves.writable, hserves.counted, hserves.handled⟩, rfl⟩

/-! ## Runs -/

/-- The frames of what was granted, and one farewell at most, are all that a run writes. -/
theorem texts_eq {session : Session Handler} {topics : List String}
    (hserves : session.isConnected = true → session.Serves topics)
    (operations : List (Operation Handler)) :
    ∃ farewell, (farewell = [] ∨ farewell = [disconnectFrame]) ∧
      session.texts operations =
        (requested topics (session.granted operations) ++ farewell).map Frame.encode := by
  induction operations generalizing session topics with
  | nil => exact ⟨[], .inl rfl, rfl⟩
  | cons operation rest ih =>
      cases hconnected : session.isConnected with
      | false =>
          rw [granted_of_not_connected hconnected]
          rcases texts_of_not_connected hconnected (operation :: rest) with hsilent | hlast
          · exact ⟨[], .inl rfl, hsilent⟩
          · exact ⟨[disconnectFrame], .inr rfl, hlast⟩
      | true =>
          rw [texts_cons, granted_cons]
          rcases (hserves hconnected).perform hconnected operation with hgoes | hends
          · obtain ⟨farewell, hfarewell, hrest⟩ := ih fun _ => hgoes.serves
            refine ⟨farewell, hfarewell, ?_⟩
            rw [hgoes.wrote, hrest, requested_append, ← List.map_append, List.append_assoc]
          · rw [hends.refused, granted_of_not_connected hends.ended]
            rcases hends.wrote with hsilent | ⟨hlast, hclosed⟩
            · rw [hsilent]
              rcases texts_of_not_connected hends.ended rest with hnone | hlater
              · exact ⟨[], .inl rfl, by rw [hnone]; rfl⟩
              · exact ⟨[disconnectFrame], .inr rfl, by rw [hlater]; rfl⟩
            · rw [hlast, texts_of_not_writable hends.ended hclosed]
              exact ⟨[disconnectFrame], .inr rfl, rfl⟩

/-- A session that is still connected after a run has the tables of what was granted in it. -/
theorem Serves.after {session : Session Handler} {topics : List String}
    (hserves : session.isConnected = true → session.Serves topics)
    (operations : List (Operation Handler))
    (hconnected : (session.after operations).isConnected = true) :
    (session.after operations).Serves (topicsOf topics (session.granted operations)) := by
  induction operations generalizing session topics with
  | nil => exact hserves hconnected
  | cons operation rest ih =>
      cases hstarted : session.isConnected with
      | false =>
          rw [isConnected_after hstarted] at hconnected
          cases hconnected
      | true =>
          rcases (hserves hstarted).perform hstarted operation with hgoes | hends
          · rw [granted_cons, topicsOf, List.foldl_append]
            exact ih (fun _ => hgoes.serves) hconnected
          · rw [after_cons, isConnected_after hends.ended] at hconnected
            cases hconnected

/-! ## The account of a run -/

/-- A session that carries frames refuses no call. -/
theorem IsLive.result_perform {session : Session Handler} (hlive : session.IsLive)
    {operation : Operation Handler} (hcall : operation.call?.isSome) :
    (session.perform operation).2.result = .ok () := by
  cases operation with
  | subscribe topic handler => exact (hlive.subscribe topic handler).1
  | send destination payload =>
      rw [perform_send, hlive.send]
      rfl
  | disconnect => cases hcall
  | receive event => cases hcall
  | lose reason => cases hcall

/-- What a run of a session tells of the texts on its connection, and they of the session. -/
structure Accounts (channel : Channel) (host : String) (session : Session Handler)
    (operations : List (Operation Handler)) (texts : List String) : Prop where
  /-- The handshake, then what was granted, and at most one farewell behind it. -/
  texts_eq : ∃ asked farewell,
    texts = s!"CONNECT\naccept-version:1.1,1.2\nhost:{host}\nheart-beat:0,0\n\n\x00" ::
      (asked ++ farewell) ∧
    Writes [] (session.granted operations) asked ∧
    (farewell = [] ∨ ∃ last, farewell = [last] ∧ ReadsAs last .disconnect [] "")
  /-- Subscriptions are numbered from zero with the 32 bits of a counter, so that the number is the
  position of the subscription unless there are more than these can count. -/
  numbered : ∀ (position : Nat) frame, (texts.filterMap subscription?)[position]? = some frame →
    frame.header? "id" = some s!"sub-{position % 2 ^ 32}"
  destined : destinations texts = (topicsOf [] (session.granted operations)).map some
  distinct : (destinations texts).Nodup
  /-- As long as the session is connected, its handlers are those of the topics on the wire. -/
  handled : (session.after operations).isConnected = true → ∀ topic,
    (session.after operations).subscriptions.handlers.contains topic = true ↔
      some topic ∈ destinations texts
  /-- The end of a connection is final, and every call behind it is refused. -/
  ended : ∀ earlier later, operations = earlier ++ later →
    (session.after earlier).isConnected = false →
    (session.after operations).isConnected = false ∧
      ∀ front operation back, later = front ++ operation :: back → operation.call?.isSome →
        (session.outcomes operations)[(earlier ++ front).length]? =
          some { result := .error (.notConnected channel) }
  /-- A session that is connected to a server which can be reached grants every call. -/
  grants : ∀ earlier operation later, operations = earlier ++ operation :: later →
    (session.after earlier).IsLive → operation.call?.isSome →
    ∃ outcome, (session.outcomes operations)[earlier.length]? = some outcome ∧
      outcome.result = .ok ()

/-- A session that was opened has subscribed to nothing. -/
theorem IsFresh.serves {channel : Channel} {session : Session Handler}
    (hfresh : session.IsFresh channel) : session.Serves [] := by
  refine ⟨hfresh.writable, ?_, ?_⟩
  · rw [hfresh.unsubscribed]
    rfl
  · intro topic
    rw [hfresh.unsubscribed]
    simp [Dictionary.contains]

/-- The subscriptions on the wire are those of the topics that were asked for: the handshake and the
farewell are none. -/
theorem filterMap_subscription?_account (host : String) (calls : List Call) {farewell : List Frame}
    (hfarewell : farewell = [] ∨ farewell = [disconnectFrame]) :
    ((connectFrame host :: (requested [] calls ++ farewell)).map Frame.encode).filterMap
        subscription? = subscribeFrames 0 (topicsOf [] calls) := by
  obtain ⟨added, htopics, hrequested⟩ := filterMap_subscription?_requested [] calls
  have hfirst : subscription? (connectFrame host).encode = none :=
    subscription?_encode_of_ne nofun
  have hparting : subscription? disconnectFrame.encode = none :=
    subscription?_encode_of_ne nofun
  have hlast : (farewell.map Frame.encode).filterMap subscription? = [] := by
    rcases hfarewell with rfl | rfl
    · rfl
    · rw [List.map_singleton, List.filterMap_cons_none hparting]
      rfl
  rw [List.map_cons, List.filterMap_cons_none hfirst, List.map_append, List.filterMap_append,
    hrequested, hlast, List.append_nil, htopics]
  rfl

/-- A session that was opened writes, in whatever order it is used, torn down and cut off, the
handshake, one frame for each subscription to a new topic and for each payload that it granted, in
the order of the calls, and at most one farewell behind them. -/
theorem accounts_of_connect {config : Config} {channel : Channel} {attempt : Attempt}
    {session : Session Handler} {log : List WireEvent}
    (hopened : connect config channel attempt = (.ok session, log))
    (operations : List (Operation Handler)) :
    ∃ url, config.channelUrl channel = .ok url ∧
      Accounts channel (hostName url) session operations
        ((log ++ session.written operations).filterMap WireEvent.text?) := by
  obtain ⟨url, hurl, hlog⟩ := url_of_connect hopened
  refine ⟨url, hurl, ?_⟩
  have hfresh := isFresh_of_connect hopened
  have hserves : session.isConnected = true → session.Serves [] := fun _ => hfresh.serves
  obtain ⟨farewell, hfarewell, htexts⟩ := texts_eq hserves operations
  have hwire : (log ++ session.written operations).filterMap WireEvent.text? =
      (connectFrame (hostName url) :: (requested [] (session.granted operations) ++ farewell)).map
        Frame.encode := by
    rw [List.filterMap_append, hlog]
    exact congrArg ((connectFrame (hostName url)).encode :: ·) htexts
  have hsubscriptions :=
    filterMap_subscription?_account (hostName url) (session.granted operations) hfarewell
  have hdestined : destinations ((log ++ session.written operations).filterMap WireEvent.text?) =
      (topicsOf [] (session.granted operations)).map some := by
    rw [destinations, hwire, hsubscriptions]
    exact destinations_subscribeFrames 0 _
  constructor
  · refine ⟨_, farewell.map Frame.encode, ?_, writes_requested [] (session.granted operations), ?_⟩
    · rw [hwire, List.map_cons, List.map_append, encode_connectFrame]
      rfl
    · rcases hfarewell with rfl | rfl
      · exact .inl rfl
      · exact .inr ⟨_, rfl, _, parse_disconnectFrame, rfl, List.forall_mem_nil _, rfl⟩
  · intro position frame hframe
    rw [hwire, hsubscriptions] at hframe
    have hid := id_of_subscribeFrames hframe
    rwa [Nat.zero_add] at hid
  · exact hdestined
  · rw [hdestined]
    rw [List.Nodup, List.pairwise_map]
    exact (nodup_topicsOf List.nodup_nil _).imp fun hne heq => hne (Option.some.inj heq)
  · intro hconnected topic
    rw [hdestined, (Serves.after hserves operations hconnected).handled]
    simp
  · rintro earlier later rfl hended
    refine ⟨?_, ?_⟩
    · rw [after_append]
      exact isConnected_after hended later
    · rintro front operation back rfl hcall
      rw [← List.append_assoc, getElem?_outcomes, after_append]
      have hstill := isConnected_after hended front
      rw [(perform_of_not_connected hstill operation).2 hcall, channel_after, channel_after,
        hfresh.on_channel]
  · rintro earlier operation later rfl hlive hcall
    exact ⟨_, getElem?_outcomes session earlier later operation, hlive.result_perform hcall⟩

/-- A topic with a colon and a line end, subscribed twice, on a session that is torn down twice. -/
theorem accounts_of_connect_torn_down :
    let session : Session Nat := { channel := .control }
    let operations : List (Operation Nat) :=
      [.subscribe "/a:b\n" 1, .send "/x" "{}", .subscribe "/a:b\n" 2, .disconnect, .disconnect,
        .send "/x" "{}"]
    ∃ url log,
      connect localConfig .control (.accepted [.text (Frame.bare .connected []).encode]) =
        (.ok session, log) ∧
      session.granted operations =
        [.subscription "/a:b\n", .message "/x" "{}", .subscription "/a:b\n"] ∧
      (session.written operations).filterMap WireEvent.text? =
        ["SUBSCRIBE\nid:sub-0\ndestination:/a\\cb\\n\nack:auto\n\n\x00",
          "SEND\ndestination:/x\ncontent-type:application/json\ncontent-length:2\n\n\x7b\x7d\x00",
          "DISCONNECT\n\n\x00"] ∧
      Accounts .control (hostName url) session operations
        ((log ++ session.written operations).filterMap WireEvent.text?) := by
  intro session operations
  obtain ⟨_, hgranted⟩ := exists_channelUrl_localConfig .control
  have hopened : connect localConfig .control _ = (.ok session, _) := connect_of_granted hgranted
  obtain ⟨url, _, haccounts⟩ := accounts_of_connect hopened operations
  exact ⟨url, _, hopened, by decide, by decide +kernel, haccounts⟩

end Session

end ClassroomClient
