/-
# Subscription tables against their history

The tables of a session summarize the registrations that were made on it. `Records` says of which
history they are the summary: the counter counts the topics, the table of ids lists them in the
order of their first registration, and the table of handlers holds the last one for each. It is
kept by `register`, and it decides which topic and which handler a message gets.
-/

import ClassroomClient.Proofs.Text
import ClassroomClient.Session.Subscriptions

namespace ClassroomClient

open Stomp

variable {Handler : Type}

/-! ## Subscription ids -/

theorem numbered_injective {first second : Nat} (h : s!"sub-{first}" = s!"sub-{second}") :
    first = second := by
  have htext : (s!"sub-{first}").toList = (s!"sub-{second}").toList := by rw [h]
  apply Text.decimal_injective
  simpa [toString, Nat.repr, Text.decimal] using htext

/-- Below the largest number of subscriptions the counter is the number in the id. -/
theorem subscriptionId_eq {number : UInt32} {position : Nat} (h : number.toNat = position) :
    subscriptionId number = s!"sub-{position}" := by
  subst h
  rfl

/-! ## Registrations -/

/-- The handlers that were registered, each with its topic, from the first to the last. -/
abbrev Registrations (Handler : Type) := List (String × Handler)

namespace Registrations

/-- The topics in the order of their first registration. -/
def topics (registrations : Registrations Handler) : List String :=
  (registrations.map (·.1)).eraseDups

/-- The handler that was registered last for a topic. -/
def latest? (registrations : Registrations Handler) (topic : String) : Option Handler :=
  (registrations.reverse.find? (·.1 == topic)).map (·.2)

@[simp] theorem topics_nil : topics ([] : Registrations Handler) = [] := rfl

theorem mem_eraseDups {topic : String} (names : List String) :
    topic ∈ names.eraseDups ↔ topic ∈ names := by
  induction hlength : names.length using Nat.strongRecOn generalizing names with
  | ind length ih =>
      cases names with
      | nil => simp
      | cons first rest =>
          have hshort : (rest.filter fun name => !name == first).length < length := by
            rw [← hlength]
            exact Nat.lt_succ_of_le (List.length_filter_le _ _)
          rw [List.eraseDups_cons, List.mem_cons, List.mem_cons, ih _ hshort _ rfl]
          by_cases hfirst : topic = first <;> simp [hfirst]

theorem mem_topics {registrations : Registrations Handler} {topic : String} :
    topic ∈ registrations.topics ↔ topic ∈ registrations.map (·.1) :=
  mem_eraseDups _

/-- A registration adds its topic to the topics unless it is one of them. -/
theorem topics_concat (registrations : Registrations Handler) (topic : String) (handler : Handler) :
    (registrations ++ [(topic, handler)] : Registrations Handler).topics =
      if topic ∈ registrations.topics then registrations.topics
      else registrations.topics ++ [topic] := by
  rw [topics, List.map_append, List.eraseDups_append]
  by_cases hmem : topic ∈ registrations.topics
  · have hold : [topic].removeAll (registrations.map (·.1)) = [] := by
      simpa [List.removeAll] using mem_topics.1 hmem
    rw [if_pos hmem]
    simp only [List.map_cons, List.map_nil, hold, List.eraseDups_nil, List.append_nil]
    rfl
  · have hnew : [topic].removeAll (registrations.map (·.1)) = [topic] := by
      simpa [List.removeAll] using fun h => hmem (mem_topics.2 h)
    rw [if_neg hmem]
    simp only [List.map_cons, List.map_nil, hnew]
    rfl

/-- Later registrations leave the topics of the earlier ones in front. -/
theorem topics_length_le (earlier later : Registrations Handler) :
    earlier.topics.length ≤ (earlier ++ later : Registrations Handler).topics.length := by
  rw [topics, topics, List.map_append, List.eraseDups_append, List.length_append]
  exact Nat.le_add_right _ _

theorem latest?_concat (registrations : Registrations Handler) (topic name : String)
    (handler : Handler) :
    (registrations ++ [(topic, handler)] : Registrations Handler).latest? name =
      if name = topic then some handler else registrations.latest? name := by
  by_cases hname : name = topic
  · simp [latest?, hname]
  · simp [latest?, hname, Ne.symm hname]

/-- A topic has a latest handler as soon as it was registered. -/
theorem isSome_latest? {registrations : Registrations Handler} {topic : String} :
    (registrations.latest? topic).isSome ↔ topic ∈ registrations.topics := by
  simp [latest?, mem_topics]

end Registrations

/-- The topic that a message is for, when these are the topics that were subscribed. The id of one
of them in the `subscription` header decides, whatever the destination says. Without such an id it
is the topic that the `destination` header names. -/
inductive IsTarget (topics : List String) (frame : Frame) : String → Prop
  | named {position : Nat} {topic : String}
      (hid : frame.header? "subscription" = some s!"sub-{position}")
      (htopic : topics[position]? = some topic) : IsTarget topics frame topic
  | addressed {topic : String}
      (hunnamed : ∀ position, position < topics.length →
        frame.header? "subscription" ≠ some s!"sub-{position}")
      (hdestination : frame.header? "destination" = some topic)
      (htopic : topic ∈ topics) : IsTarget topics frame topic

theorem IsTarget.mem_topics {topics : List String} {frame : Frame} {topic : String}
    (htarget : IsTarget topics frame topic) : topic ∈ topics := by
  cases htarget with
  | named hid htopic =>
      exact List.mem_of_getElem? htopic
  | addressed hunnamed hdestination htopic =>
      exact htopic

/-! ## The tables -/

namespace Subscriptions

theorem handlers_register (subscriptions : Subscriptions Handler) (topic : String)
    (handler : Handler) :
    (subscriptions.register topic handler).1.handlers =
      subscriptions.handlers.insert topic handler := by
  unfold register
  dsimp only
  split <;> rfl

/-- A message goes to the handler of its topic. -/
theorem find?_of_handlerFor? {subscriptions : Subscriptions Handler} {frame : Frame}
    {topic : String} {handler : Handler}
    (hfound : subscriptions.handlerFor? frame = some (topic, handler)) :
    subscriptions.handlers.find? topic = some handler := by
  simp only [handlerFor?, Option.bind_eq_bind, Option.pure_def, Option.bind_eq_some_iff,
    Option.some.injEq, Prod.mk.injEq] at hfound
  obtain ⟨_, _, _, hhandler, rfl, rfl⟩ := hfound
  exact hhandler

/-- The tables are those that the registrations leave. -/
structure Records (subscriptions : Subscriptions Handler) (registrations : Registrations Handler) :
    Prop where
  counted : subscriptions.nextId.toNat = registrations.topics.length
  named : ∀ id topic, subscriptions.topics.find? id = some topic ↔
    ∃ position : Nat, id = s!"sub-{position}" ∧ registrations.topics[position]? = some topic
  handled : ∀ topic, subscriptions.handlers.find? topic = registrations.latest? topic

theorem records_empty : ({} : Subscriptions Handler).Records [] where
  counted := rfl
  named := by
    intro id topic
    simp
  handled := by
    intro topic
    rfl

namespace Records

variable {subscriptions : Subscriptions Handler} {registrations : Registrations Handler}

/-- A topic has a handler in the tables when it is one of the registered topics. -/
theorem contains_iff (hrecords : subscriptions.Records registrations) (topic : String) :
    subscriptions.handlers.contains topic = true ↔ topic ∈ registrations.topics := by
  rw [Dictionary.contains, hrecords.handled]
  exact Registrations.isSome_latest?

theorem handled_insert (hrecords : subscriptions.Records registrations) (topic name : String)
    (handler : Handler) :
    (subscriptions.handlers.insert topic handler).find? name =
      (registrations ++ [(topic, handler)] : Registrations Handler).latest? name := by
  rw [Dictionary.find?_insert, Registrations.latest?_concat, hrecords.handled]

/-- A topic that is registered again keeps its id; only its handler changes. -/
theorem register_old (hrecords : subscriptions.Records registrations) {topic : String}
    (handler : Handler) (hold : topic ∈ registrations.topics) :
    ∃ after, subscriptions.register topic handler = (after, none) ∧
      after.Records (registrations ++ [(topic, handler)]) := by
  have hcontains := (hrecords.contains_iff topic).2 hold
  have htopics := Registrations.topics_concat registrations topic handler
  rw [if_pos hold] at htopics
  refine ⟨_, by rw [register, if_pos hcontains], ?_⟩
  constructor
  · rw [htopics]
    exact hrecords.counted
  · rw [htopics]
    exact hrecords.named
  · intro name
    exact hrecords.handled_insert topic name handler

/-- A new topic gets the next number as its id. -/
theorem register_new (hrecords : subscriptions.Records registrations) {topic : String}
    (handler : Handler) (hnew : topic ∉ registrations.topics)
    (hfew : registrations.topics.length + 1 < 2 ^ 32) :
    ∃ after, subscriptions.register topic handler =
        (after, some s!"sub-{registrations.topics.length}") ∧
      after.Records (registrations ++ [(topic, handler)]) := by
  have hcontains : ¬ subscriptions.handlers.contains topic = true :=
    fun h => hnew ((hrecords.contains_iff topic).1 h)
  have hid := subscriptionId_eq hrecords.counted
  have htopics := Registrations.topics_concat registrations topic handler
  rw [if_neg hnew] at htopics
  refine ⟨_, by rw [register, if_neg hcontains, hid], ?_⟩
  constructor
  · rw [htopics, UInt32.toNat_add, hrecords.counted, List.length_append]
    exact Nat.mod_eq_of_lt hfew
  · intro name other
    rw [htopics, Dictionary.find?_insert]
    by_cases hname : name = s!"sub-{registrations.topics.length}"
    · rw [if_pos hname]
      constructor
      · intro hother
        refine ⟨registrations.topics.length, hname, ?_⟩
        simpa using hother
      · rintro ⟨position, hposition, hother⟩
        have hlast : registrations.topics.length = position :=
          numbered_injective (hname.symm.trans hposition)
        simpa [← hlast] using hother
    · rw [if_neg hname, hrecords.named]
      constructor
      · rintro ⟨position, hposition, hother⟩
        have hlt := (List.getElem?_eq_some_iff.1 hother).1
        exact ⟨position, hposition, by rw [List.getElem?_append_left hlt, hother]⟩
      · rintro ⟨position, hposition, hother⟩
        have hne : position ≠ registrations.topics.length := by
          intro heq
          exact hname (by rw [hposition, heq])
        have hlt := (List.getElem?_eq_some_iff.1 hother).1
        rw [List.length_append, List.length_singleton] at hlt
        rw [List.getElem?_append_left (by omega)] at hother
        exact ⟨position, hposition, hother⟩
  · intro name
    exact hrecords.handled_insert topic name handler

/-- Registering keeps the tables in step with the history. -/
theorem register (hrecords : subscriptions.Records registrations) (topic : String)
    (handler : Handler)
    (hfew : (registrations ++ [(topic, handler)] : Registrations Handler).topics.length < 2 ^ 32) :
    (subscriptions.register topic handler).1.Records (registrations ++ [(topic, handler)]) := by
  by_cases hmem : topic ∈ registrations.topics
  · obtain ⟨after, hregister, hafter⟩ := hrecords.register_old handler hmem
    rw [hregister]
    exact hafter
  · rw [Registrations.topics_concat, if_neg hmem, List.length_append] at hfew
    obtain ⟨after, hregister, hafter⟩ := hrecords.register_new handler hmem hfew
    rw [hregister]
    exact hafter

/-- The topic that the tables choose for a message is the one that the message is for. -/
theorem isTarget_iff (hrecords : subscriptions.Records registrations) (frame : Frame)
    (topic : String) :
    IsTarget registrations.topics frame topic ↔
      ((frame.header? "subscription").bind subscriptions.topics.find?).or
          (frame.header? "destination") = some topic ∧
        topic ∈ registrations.topics := by
  constructor
  · intro htarget
    refine ⟨?_, htarget.mem_topics⟩
    cases htarget with
    | @named position _ hid htopic =>
        have hfind := (hrecords.named _ topic).2 ⟨position, rfl, htopic⟩
        rw [hid, Option.bind_some, hfind, Option.some_or]
    | addressed hunnamed hdestination htopic =>
        have hnone : (frame.header? "subscription").bind subscriptions.topics.find? = none := by
          rw [Option.bind_eq_none_iff]
          intro id hid
          rw [Option.eq_none_iff_forall_ne_some]
          intro other hother
          obtain ⟨position, hposition, hmem⟩ := (hrecords.named id other).1 hother
          have hlt := (List.getElem?_eq_some_iff.1 hmem).1
          exact hunnamed position hlt (by rw [hid, hposition])
        rw [hnone, Option.none_or, hdestination]
  · rintro ⟨hchosen, hmem⟩
    cases hnamed : (frame.header? "subscription").bind subscriptions.topics.find? with
    | some other =>
        rw [hnamed, Option.some_or] at hchosen
        obtain ⟨id, hid, hfind⟩ := Option.bind_eq_some_iff.1 hnamed
        obtain ⟨position, hposition, htopic⟩ := (hrecords.named id other).1 hfind
        cases hchosen
        exact .named (by rw [hid, hposition]) htopic
    | none =>
        rw [hnamed, Option.none_or] at hchosen
        refine .addressed ?_ hchosen hmem
        intro position hlt hid
        have hfind := (hrecords.named _ _).2 ⟨position, rfl, List.getElem?_eq_getElem hlt⟩
        rw [hid, Option.bind_some, hfind] at hnamed
        cases hnamed

/-- The handler of a message is the latest one of the topic that the message is for. -/
theorem handlerFor?_eq_some (hrecords : subscriptions.Records registrations) (frame : Frame)
    (topic : String) (handler : Handler) :
    subscriptions.handlerFor? frame = some (topic, handler) ↔
      IsTarget registrations.topics frame topic ∧ registrations.latest? topic = some handler := by
  have hmem (h : registrations.latest? topic = some handler) : topic ∈ registrations.topics :=
    Registrations.isSome_latest?.1 (by rw [h, Option.isSome_some])
  rw [hrecords.isTarget_iff]
  simp only [handlerFor?, Option.bind_eq_bind, Option.bind_eq_some_iff, hrecords.handled]
  constructor
  · rintro ⟨chosen, hchosen, found, hfound, hpair⟩
    cases hpair
    exact ⟨⟨hchosen, hmem hfound⟩, hfound⟩
  · rintro ⟨⟨hchosen, _⟩, hlatest⟩
    exact ⟨topic, hchosen, handler, hlatest, rfl⟩

end Records

end Subscriptions

end ClassroomClient
