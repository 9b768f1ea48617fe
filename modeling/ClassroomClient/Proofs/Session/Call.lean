/-
# What is asked for on a session

A client asks on a session for subscriptions and for payloads to be sent. `requested` says which
frames a list of such calls is written as: one for each payload and one for each topic that was not
subscribed before, numbered in the order of the topics. The server finds the subscriptions again
among all texts, each with its number and its topic.
-/

import ClassroomClient.Proofs.Stomp.NormalForm
import ClassroomClient.Session.Basic

namespace ClassroomClient

open Stomp

/-! ## Frames that are read back -/

/-- A frame that gives no length is read back from its text, unless it is one of a handshake. -/
theorem Stomp.Frame.isWritable_of_unsized {frame : Frame}
    (hunsized : frame.header? contentLength = none)
    (hescaped : frame.command.escapesHeaders = true) : frame.IsWritable where
  length_agrees := by
    rintro value hvalue
    rw [hunsized] at hvalue
    cases hvalue
  headers_plain := by
    rintro (hcommand | hcommand) <;>
    · rw [hcommand] at hescaped
      cases hescaped

theorem parse_subscribeFrame (id topic : String) :
    Frame.parse (subscribeFrame id topic).encode = .ok (some (subscribeFrame id topic)) :=
  (Frame.isWritable_of_unsized rfl rfl).parse_encode (Nat.zero_le _)

/-- The farewell is a frame without headers and without a body. -/
theorem parse_disconnectFrame :
    Frame.parse disconnectFrame.encode = .ok (some (.bare .disconnect [])) :=
  (Frame.isWritable_of_unsized rfl rfl).parse_encode (Nat.zero_le _)

/-- A payload is read back with its destination. The bound is that of every text in memory. -/
theorem parse_sendFrame (destination : String) {payload : String}
    (hsize : payload.utf8ByteSize < 2 ^ 63) :
    Frame.parse (sendFrame destination payload).encode =
      .ok (some (sendFrame destination payload).sized) := by
  have hfits : payload.utf8ByteSize ≤ Text.maxSize := by
    rw [Text.maxSize_eq]
    omega
  exact (Frame.isWritable_of_unsized rfl rfl).parse_encode hfits

/-- The handshake as the server sees it. -/
theorem encode_connectFrame (host : String) :
    (connectFrame host).encode =
      "CONNECT\naccept-version:1.1,1.2\nhost:" ++ host ++ "\nheart-beat:0,0\n\n\x00" := by
  apply String.toList_injective
  simp [connectFrame, Frame.bare, Frame.encode, Frame.wireHeaders, Frame.headerBlock,
    Frame.headerLine, Command.wireName, Command.escapesHeaders]

/-! ## Texts on the wire -/

/-- The text that an event carries. -/
def WireEvent.text? : WireEvent → Option String
  | .text content => some content
  | _ => none

/-- The frame of a text that subscribes to a topic. -/
def subscription? (text : String) : Option Frame :=
  match Frame.parse text with
  | .ok (some frame) => if frame.command = .subscribe then some frame else none
  | _ => none

/-- The destinations of the subscriptions among texts. -/
def destinations (texts : List String) : List (Option String) :=
  (texts.filterMap subscription?).map (·.header? "destination")

/-- A subscription is read back with its id and its topic, whatever characters these hold. -/
theorem subscription?_subscribeFrame (id topic : String) :
    subscription? (subscribeFrame id topic).encode = some (subscribeFrame id topic) := by
  rw [subscription?, parse_subscribeFrame]
  rfl

/-- A text is read as a frame of a command that has a body and, for each of the named headers, this
as its first value. -/
def ReadsAs (text : String) (command : Command) (headers : List (String × String))
    (body : String) : Prop :=
  ∃ frame, Frame.parse text = .ok (some frame) ∧ frame.command = command ∧
    (∀ header ∈ headers, frame.header? header.1 = some header.2) ∧ frame.body = body

/-- No frame of another command is read as a subscription. -/
theorem subscription?_encode_of_ne {frame : Frame} (hcommand : frame.command ≠ .subscribe) :
    subscription? frame.encode = none := by
  unfold subscription?
  split
  · next again hparse =>
    rw [Frame.command_of_parse_encode hparse, if_neg hcommand]
  · rfl

/-! ## Calls -/

/-- What a client asks for on a session. -/
inductive Call
  | subscription (topic : String)
  | message (destination payload : String)
  deriving DecidableEq

namespace Call

/-- The topics after a call when these were subscribed before. -/
def topicsAfter (topics : List String) : Call → List String
  | subscription topic => if topic ∈ topics then topics else topics ++ [topic]
  | message _ _ => topics

/-- The frames that a call is written as. A topic that is subscribed already is not subscribed
again. -/
def frames (topics : List String) : Call → List Frame
  | subscription topic =>
    if topic ∈ topics then [] else [subscribeFrame (subscriptionId (.ofNat topics.length)) topic]
  | message destination payload => [sendFrame destination payload]

end Call

/-- The topics that calls subscribe to, in the order of their first subscription. -/
def topicsOf (topics : List String) (calls : List Call) : List String :=
  calls.foldl Call.topicsAfter topics

/-- The frames that calls are written as, one after the other. -/
def requested (topics : List String) : List Call → List Frame
  | [] => []
  | call :: rest => call.frames topics ++ requested (call.topicsAfter topics) rest

theorem requested_append (topics : List String) (earlier later : List Call) :
    requested topics (earlier ++ later) =
      requested topics earlier ++ requested (topicsOf topics earlier) later := by
  induction earlier generalizing topics with
  | nil => rfl
  | cons call rest ih =>
      rw [List.cons_append, requested, ih, requested, List.append_assoc]
      rfl

/-- The texts of calls when some topics were subscribed before: one for each payload, and one for
each topic that is new, which has the number of the topics before it as far as 32 bits count. The
bound on a payload is that of every text in memory. -/
inductive Writes : List String → List Call → List String → Prop
  | nil {topics : List String} : Writes topics [] []
  | known {topics texts : List String} {topic : String} {calls : List Call}
      (hold : topic ∈ topics) (hrest : Writes topics calls texts) :
      Writes topics (.subscription topic :: calls) texts
  | subscribed {topics texts : List String} {topic text : String} {calls : List Call}
      (hnew : topic ∉ topics)
      (hreads : ReadsAs text .subscribe
        [("id", s!"sub-{topics.length % 2 ^ 32}"), ("destination", topic), ("ack", "auto")] "")
      (hrest : Writes (topics ++ [topic]) calls texts) :
      Writes topics (.subscription topic :: calls) (text :: texts)
  | sent {topics texts : List String} {destination payload text : String} {calls : List Call}
      (hreads : payload.utf8ByteSize < 2 ^ 63 → ReadsAs text .send
        [("destination", destination), ("content-type", "application/json")] payload)
      (hrest : Writes topics calls texts) :
      Writes topics (.message destination payload :: calls) (text :: texts)

theorem nodup_topicsAfter {topics : List String} (hdistinct : topics.Nodup) (call : Call) :
    (call.topicsAfter topics).Nodup := by
  cases call with
  | message destination payload => exact hdistinct
  | subscription topic =>
      by_cases hold : topic ∈ topics
      · rw [Call.topicsAfter, if_pos hold]
        exact hdistinct
      · rw [Call.topicsAfter, if_neg hold, List.nodup_append]
        refine ⟨hdistinct, by simp, ?_⟩
        rintro other hother _ hlast rfl
        rw [List.mem_singleton.1 hlast] at hother
        exact hold hother

/-- No topic is subscribed twice. -/
theorem nodup_topicsOf {topics : List String} (hdistinct : topics.Nodup) (calls : List Call) :
    (topicsOf topics calls).Nodup := by
  induction calls generalizing topics with
  | nil => exact hdistinct
  | cons call rest ih => exact ih (nodup_topicsAfter hdistinct call)

/-- The id with the number of a topic, as far as 32 bits count. -/
theorem subscriptionId_ofNat (position : Nat) :
    subscriptionId (.ofNat position) = s!"sub-{position % 2 ^ 32}" := by
  rw [subscriptionId, UInt32.toNat_ofNat']
  rfl

theorem readsAs_subscribeFrame (number : Nat) (topic : String) :
    ReadsAs (subscribeFrame (subscriptionId (.ofNat number)) topic).encode .subscribe
      [("id", s!"sub-{number % 2 ^ 32}"), ("destination", topic), ("ack", "auto")] "" := by
  refine ⟨_, parse_subscribeFrame _ topic, rfl, ?_, rfl⟩
  rw [← subscriptionId_ofNat]
  simp [subscribeFrame, Frame.bare, Frame.header?, lookup?]

theorem readsAs_sendFrame (destination : String) {payload : String}
    (hsize : payload.utf8ByteSize < 2 ^ 63) :
    ReadsAs (sendFrame destination payload).encode .send
      [("destination", destination), ("content-type", "application/json")] payload := by
  refine ⟨_, parse_sendFrame destination hsize, ?_, ?_, ?_⟩ <;>
    rw [Frame.sized] <;> split <;> simp [sendFrame, Frame.bare, Frame.header?, lookup?]

/-- The frames of calls are read back as what was asked for. -/
theorem writes_requested (topics : List String) (calls : List Call) :
    Writes topics calls ((requested topics calls).map Frame.encode) := by
  induction calls generalizing topics with
  | nil => exact .nil
  | cons call rest ih =>
      rw [requested, List.map_append]
      cases call with
      | message destination payload => exact .sent (readsAs_sendFrame destination) (ih topics)
      | subscription topic =>
          have hrest := ih ((Call.subscription topic).topicsAfter topics)
          by_cases hold : topic ∈ topics
          · rw [Call.topicsAfter, if_pos hold] at hrest
            rw [Call.frames, if_pos hold, Call.topicsAfter, if_pos hold]
            exact .known hold hrest
          · rw [Call.topicsAfter, if_neg hold] at hrest
            rw [Call.frames, if_neg hold, Call.topicsAfter, if_neg hold]
            exact .subscribed hold (readsAs_subscribeFrame _ topic) hrest

/-- The subscriptions of topics, numbered from a given number. -/
def subscribeFrames (number : Nat) : List String → List Frame
  | [] => []
  | topic :: rest =>
    subscribeFrame (subscriptionId (.ofNat number)) topic :: subscribeFrames (number + 1) rest

/-- Topics that differ are all new when nothing was subscribed before. -/
theorem requested_subscriptions {known topics : List String} (hdistinct : topics.Nodup)
    (hnew : ∀ topic ∈ topics, topic ∉ known) :
    requested known (topics.map Call.subscription) = subscribeFrames known.length topics := by
  induction topics generalizing known with
  | nil => rfl
  | cons topic rest ih =>
      obtain ⟨htopic, hrest⟩ := List.nodup_cons.1 hdistinct
      obtain ⟨hfirst, hlater⟩ := List.forall_mem_cons.1 hnew
      have hstill : ∀ name ∈ rest, name ∉ known ++ [topic] := by
        intro name hmem
        rw [List.mem_append, List.mem_singleton, not_or]
        exact ⟨hlater name hmem, fun hsame => htopic (hsame ▸ hmem)⟩
      rw [List.map_cons, requested, Call.topicsAfter, Call.frames, if_neg hfirst, if_neg hfirst,
        ih hrest hstill, List.length_append]
      rfl

theorem writes_subscribeFrames {topics : List String} (hdistinct : topics.Nodup) :
    Writes [] (topics.map Call.subscription) ((subscribeFrames 0 topics).map Frame.encode) := by
  have hwrites := writes_requested [] (topics.map Call.subscription)
  rwa [requested_subscriptions hdistinct fun _ _ => List.not_mem_nil] at hwrites

theorem destinations_subscribeFrames (number : Nat) (topics : List String) :
    (subscribeFrames number topics).map (·.header? "destination") = topics.map some := by
  induction topics generalizing number with
  | nil => rfl
  | cons topic rest ih =>
      rw [subscribeFrames, List.map_cons, List.map_cons, ih]
      rfl

theorem id_of_subscribeFrames {number position : Nat} {topics : List String} {frame : Frame}
    (hframe : (subscribeFrames number topics)[position]? = some frame) :
    frame.header? "id" = some s!"sub-{(number + position) % 2 ^ 32}" := by
  induction topics generalizing number position with
  | nil => cases hframe
  | cons topic rest ih =>
      cases position with
      | zero =>
          cases hframe
          rw [← subscriptionId_ofNat]
          rfl
      | succ position =>
          rw [subscribeFrames, List.getElem?_cons_succ] at hframe
          rw [ih hframe, Nat.add_right_comm, Nat.add_assoc]

/-- The subscriptions among the frames of calls are those of the topics that the calls add. -/
theorem filterMap_subscription?_requested (topics : List String) (calls : List Call) :
    ∃ added, topicsOf topics calls = topics ++ added ∧
      ((requested topics calls).map Frame.encode).filterMap subscription? =
        subscribeFrames topics.length added := by
  induction calls generalizing topics with
  | nil => exact ⟨[], (List.append_nil topics).symm, rfl⟩
  | cons call rest ih =>
      obtain ⟨added, htopics, hframes⟩ := ih (call.topicsAfter topics)
      rw [topicsOf, List.foldl_cons, requested, List.map_append, List.filterMap_append, hframes]
      change ∃ added, topicsOf (call.topicsAfter topics) rest = topics ++ added ∧ _
      rw [htopics]
      cases call with
      | message destination payload =>
          refine ⟨added, rfl, ?_⟩
          have hnone : subscription? (sendFrame destination payload).encode = none :=
            subscription?_encode_of_ne nofun
          simp [Call.frames, Call.topicsAfter, hnone]
      | subscription topic =>
          by_cases hold : topic ∈ topics
          · refine ⟨added, ?_, ?_⟩
            · rw [Call.topicsAfter, if_pos hold]
            · rw [Call.frames, if_pos hold, Call.topicsAfter, if_pos hold]
              rfl
          · refine ⟨topic :: added, ?_, ?_⟩
            · rw [Call.topicsAfter, if_neg hold, List.append_assoc]
              rfl
            · rw [Call.frames, if_neg hold, Call.topicsAfter, if_neg hold]
              simp only [subscribeFrames, List.map_cons, List.map_nil, List.filterMap_cons,
                subscription?_subscribeFrame, List.filterMap_nil, List.length_append,
                List.length_singleton, List.cons_append, List.nil_append]

end ClassroomClient
