/-
# Notifications

What a pushed message means for the page, decided by the topic it came on. Feedback must be
readable; control signals count whatever their body holds.
-/

import ClassroomClient.Exchange.Record
import ClassroomClient.Route

namespace ClassroomClient.Exchange

/-- Everything that the server can push. -/
inductive Notification
  | testResult (feedback : Feedback)
  | submitResult (feedback : Feedback)
  | compileResult (result : CompileResult)
  | broadcast (feedback : Feedback)
  | roundStart
  | roundStop (notice : StopNotice)
  | rankingsChange
  deriving BEq, Repr

/-- Why a message has no meaning. -/
inductive DecodeError
  | malformed (topic reason : String)
  | unknownTopic (topic : String)
  deriving DecidableEq, Repr

/-- The wording of a decoding error. -/
def DecodeError.message : DecodeError → String
  | malformed topic reason => s!"Malformed payload on '{topic}': {reason}"
  | unknownTopic topic => s!"No notification is known for topic '{topic}'"

namespace Notification

/-- The name of the kind of notification. -/
def kind : Notification → String
  | testResult _ => "test-result"
  | submitResult _ => "submit-result"
  | compileResult _ => "compile-result"
  | broadcast _ => "broadcast"
  | roundStart => "control-start"
  | roundStop _ => "control-stop"
  | rankingsChange => "rankings-refresh"

/-- Reads a body as a record, with the topic in the error. -/
def readBody {σ : Type} (shape : Json.Shape σ) (topic body : String) : Except DecodeError σ :=
  match shape.decode body with
  | .ok record => .ok record
  | .error fault => .error (.malformed topic (fault.message body))

/-- Decides what a body that came on a topic means. -/
def decode (topic body : String) : Except DecodeError Notification :=
  if topic = Route.feedback then do
    let feedback ← readBody Feedback.shape topic body
    return if feedback.submit then submitResult feedback else testResult feedback
  else if topic = Route.compileResults then do
    return compileResult (← readBody CompileResult.shape topic body)
  else if topic = Route.broadcasts then do
    return broadcast (← readBody Feedback.shape topic body)
  else if topic = Route.roundStart then
    .ok roundStart
  else if topic = Route.roundStop then
    match StopNotice.shape.decode body with
    | .ok notice => .ok (roundStop notice)
    | .error _ => .ok (roundStop StopNotice.empty)
  else if topic = Route.rankingsChange then
    .ok rankingsChange
  else
    .error (.unknownTopic topic)

end Notification

end ClassroomClient.Exchange
