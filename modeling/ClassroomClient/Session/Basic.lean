/-
# Sessions

A session is one connection to the server on one channel. It writes frames, and it hands every
message that comes on a subscribed topic to the handler of that topic. A session that has lost
its connection stays as it is; nothing brings it back.

What a session does and what happens to it are functions from the session to the session
after it, together with what has been written. The handlers are values of any type; a message
is delivered by naming its handler.
-/

import ClassroomClient.Channel
import ClassroomClient.Session.Subscriptions
import ClassroomClient.Submission

namespace ClassroomClient

open Stomp

/-- What comes in on a connection. -/
inductive SocketEvent
  | text (text : String)
  | binary
  | ping
  /-- The server says that it closes the connection. -/
  | close
  /-- Reading has failed. -/
  | broken (reason : String)
  deriving DecidableEq, Repr, Inhabited

/-- What the server sees of a connection. -/
inductive WireEvent
  | opened
  | refused
  | text (text : String)
  /-- The client says that it closes the connection. -/
  | closing
  deriving DecidableEq, Repr, Inhabited

/-- Why a session could not be opened or used. -/
inductive SessionError
  | invalidUrl (reason : String)
  | transport (channel : Channel) (reason : String)
  | handshake (channel : Channel) (reason : String)
  | notConnected (channel : Channel)
  | frame (error : FrameError)
  deriving DecidableEq, Repr, Inhabited

/-- The wording of a session error. -/
def SessionError.message : SessionError → String
  | invalidUrl reason => s!"Invalid endpoint URL: {reason}"
  | transport channel reason => s!"Transport error on '{channel.name}' channel: {reason}"
  | handshake channel reason => s!"STOMP handshake failed on '{channel.name}' channel: {reason}"
  | notConnected channel => s!"Session on '{channel.name}' channel is not connected"
  | frame error => error.message

/-- A sending error as a session error. -/
def SessionError.ofSend : SendError → SessionError
  | .notConnected channel => notConnected channel
  | .transport channel reason => transport channel reason

/-- A message that came on a subscribed topic. -/
structure Inbound where
  channel : Channel
  topic : String
  body : String
  deriving DecidableEq, Repr, Inhabited

/-- The state of a session. -/
structure Session (Handler : Type) where
  channel : Channel
  /-- Whether the session counts as connected. -/
  isConnected : Bool := true
  /-- Whether incoming messages are still read. -/
  isReading : Bool := true
  /-- Whether the session has not been torn down. -/
  isWritable : Bool := true
  /-- What keeps frames from reaching the server. -/
  fault : Option String := none
  subscriptions : Subscriptions Handler := {}
  deriving DecidableEq, Inhabited

/-! ## Frames that a session writes -/

/-- The frame that asks for a connection to a host. -/
def connectFrame (host : String) : Frame :=
  .bare .connect [("accept-version", "1.1,1.2"), ("host", host), ("heart-beat", "0,0")]

/-- The frame that subscribes to a topic. -/
def subscribeFrame (id topic : String) : Frame :=
  .bare .subscribe [("id", id), ("destination", topic), ("ack", "auto")]

/-- The frame that sends a payload. -/
def sendFrame (destination payload : String) : Frame :=
  { Frame.bare .send [("destination", destination), ("content-type", "application/json")] with
    body := payload }

/-- The frame that ends a session. -/
def disconnectFrame : Frame := .bare .disconnect []

namespace Session

variable {Handler : Type}

/-! ## What a session does -/

/-- Writes a frame. When the server cannot be reached the session is not connected any more. -/
def write (session : Session Handler) (frame : Frame) :
    Session Handler × Except SendError Unit × List WireEvent :=
  if !session.isWritable then
    (session, .error (.notConnected session.channel), [])
  else
    match session.fault with
    | some reason =>
      ({ session with isConnected := false }, .error (.transport session.channel reason), [])
    | none => (session, .ok (), [.text frame.encode])

/-- Registers the handler of a topic. Only the first one is told to the server. -/
def subscribe (session : Session Handler) (topic : String) (handler : Handler) :
    Session Handler × Except SessionError Unit × List WireEvent :=
  if !session.isConnected then
    (session, .error (.notConnected session.channel), [])
  else
    let (subscriptions, id?) := session.subscriptions.register topic handler
    let session := { session with subscriptions }
    match id? with
    | none => (session, .ok (), [])
    | some id =>
      let (session, result, written) := session.write (subscribeFrame id topic)
      (session, result.mapError SessionError.ofSend, written)

/-- Sends a payload to a destination. -/
def send (session : Session Handler) (destination payload : String) :
    Session Handler × Except SendError Unit × List WireEvent :=
  if !session.isConnected then
    (session, .error (.notConnected session.channel), [])
  else
    session.write (sendFrame destination payload)

/-- A session as something that messages are sent through, together with what it writes. -/
def sink : Sink (Session Handler × List WireEvent) := fun (session, log) destination payload =>
  let (session, result, written) := session.send destination payload
  ((session, log ++ written), result)

/-- Tears a session down. A second time nothing happens. -/
def disconnect (session : Session Handler) : Session Handler × List WireEvent :=
  if !session.isWritable then (session, [])
  else
    let written := if session.fault.isNone then [.text disconnectFrame.encode, .closing] else []
    ({ session with isConnected := false, isReading := false, isWritable := false }, written)

/-! ## What happens to a session -/

/-- The delivery that a frame causes. -/
def deliver? (session : Session Handler) (frame : Frame) : Option (Handler × Inbound) :=
  if frame.command = .message then
    (session.subscriptions.handlerFor? frame).map fun (topic, handler) =>
      let message : Inbound := { channel := session.channel, topic, body := frame.body }
      (handler, message)
  else none

/-- Takes what comes in. A text that is no frame is passed over; the end of the connection ends
the session. -/
def receive (session : Session Handler) (event : SocketEvent) :
    Session Handler × Option (Handler × Inbound) :=
  if !session.isReading then (session, none)
  else
    match event with
    | .text text =>
      match Frame.parse text with
      | .ok (some frame) => (session, session.deliver? frame)
      | _ => (session, none)
    | .binary | .ping => (session, none)
    | .close =>
      ({ session with
          isConnected := false, isReading := false, fault := some "connection closed" }, none)
    | .broken reason =>
      ({ session with isConnected := false, isReading := false, fault := some reason }, none)

/-- From now on frames do not reach the server, although the session has not noticed. -/
def lose (session : Session Handler) (reason : String) : Session Handler :=
  { session with fault := some reason }

end Session

end ClassroomClient
