/-
# Channels

The client talks to the server over up to three connections, one per channel. Each channel has
its own endpoint and the topics that are published there.
-/

import ClassroomClient.Route

namespace ClassroomClient

/-- A channel. Requests are sent on `control`. -/
inductive Channel
  | submit
  | control
  | feedback
  deriving DecidableEq, Repr, Inhabited

namespace Channel

/-- All channels. -/
def all : List Channel := [submit, control, feedback]

/-- The name of the channel. -/
def name : Channel → String
  | submit => "submit"
  | control => "control"
  | feedback => "feedback"

/-- The channel of a name. -/
def ofName? (name : String) : Option Channel :=
  all.find? (·.name == name)

/-- The path under which the channel is reached. -/
def endpoint : Channel → String
  | submit => "/submit"
  | control => "/control"
  | feedback => "/feedback"

/-- The topics that the client subscribes to on the channel, in their order. -/
def topics : Channel → List String
  | submit => [Route.broadcasts, Route.feedback, Route.compileResults]
  | control => [Route.roundStart, Route.roundStop]
  | feedback => [Route.rankingsChange]

end Channel

end ClassroomClient
