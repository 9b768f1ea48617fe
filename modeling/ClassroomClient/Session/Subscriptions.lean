/-
# The subscriptions of a session

The server knows a subscription by its id, the client knows it by its topic. A session keeps both
ways: the topic of every id and the handler of every topic. The ids are numbered in the order in
which topics are first subscribed; a topic that is subscribed again keeps its id.
-/

import ClassroomClient.Dictionary
import ClassroomClient.Stomp.Frame

namespace ClassroomClient

open Stomp

/-- The id of the subscription with a number. -/
def subscriptionId (number : UInt32) : String :=
  "sub-" ++ String.ofList (Text.decimal number.toNat)

/-- The topics that a session has subscribed to. -/
structure Subscriptions (Handler : Type) where
  /-- The number of the next subscription. It starts again from zero after the largest one. -/
  nextId : UInt32 := 0
  /-- The topic of every subscription id. -/
  topics : Dictionary String := .empty
  /-- The handler of every topic. -/
  handlers : Dictionary Handler := .empty
  deriving DecidableEq, Inhabited

namespace Subscriptions

variable {Handler : Type}

/-- Registers the handler of a topic. A topic that had no handler gets the next id, which is
returned. -/
def register (subscriptions : Subscriptions Handler) (topic : String) (handler : Handler) :
    Subscriptions Handler × Option String :=
  let handlers := subscriptions.handlers.insert topic handler
  if subscriptions.handlers.contains topic then
    ({ subscriptions with handlers }, none)
  else
    let id := subscriptionId subscriptions.nextId
    let topics := subscriptions.topics.insert id topic
    ({ nextId := subscriptions.nextId + 1, topics, handlers }, some id)

/-- The topic that a message belongs to, with its handler. It is the topic of the id that the
message names or, without such an id, its destination. -/
def handlerFor? (subscriptions : Subscriptions Handler) (frame : Frame) :
    Option (String × Handler) := do
  let named := (frame.header? "subscription").bind subscriptions.topics.find?
  let topic ← named.or (frame.header? "destination")
  let handler ← subscriptions.handlers.find? topic
  return (topic, handler)

end Subscriptions

end ClassroomClient
