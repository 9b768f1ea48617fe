/-
# Opening a session

The client asks for a connection and waits until the server grants or refuses it. The first
event that decides ends the wait; everything before it has no effect, and everything behind a
grant belongs to the session.
-/

import ClassroomClient.Config
import ClassroomClient.Session.Basic

namespace ClassroomClient

open Stomp

/-- What an attempt to connect meets. An accepted connection brings events until it ends. -/
inductive Attempt
  | unreachable (reason : String)
  | refused (reason : String)
  | accepted (events : List SocketEvent)
  deriving DecidableEq, Repr, Inhabited

namespace Session

/-- The reason given when a connection ends before it is granted. -/
def closedTooEarly : String := "connection closed before CONNECTED"

/-- Waits for the answer of the server. The events behind the answer are left. -/
def awaitAnswer (channel : Channel) :
    List SocketEvent → Except SessionError (List SocketEvent)
  | [] => .error (.handshake channel closedTooEarly)
  | event :: rest =>
    match event with
    | .close => .error (.handshake channel closedTooEarly)
    | .broken reason => .error (.transport channel reason)
    | .binary | .ping => awaitAnswer channel rest
    | .text text =>
      match Frame.parse text with
      | .error error => .error (.frame error)
      | .ok none => awaitAnswer channel rest
      | .ok (some frame) =>
        match frame.command with
        | .connected => .ok rest
        | .error => .error (.handshake channel ((frame.header? "message").getD frame.body))
        | _ => awaitAnswer channel rest

/-- Takes in events one after the other, before anything is subscribed. -/
def receiveEarly {Handler : Type} (session : Session Handler) (events : List SocketEvent) :
    Session Handler :=
  events.foldl (fun session event => (session.receive event).1) session

/-- The host that a connection names. -/
def hostName (url : Url) : String :=
  match url.host? with
  | some host => String.ofList host.text
  | none => "localhost"

/-- Opens the session of a channel. It is connected when the server grants it. -/
def connect {Handler : Type} (config : Config) (channel : Channel) (attempt : Attempt) :
    Except SessionError (Session Handler) × List WireEvent :=
  match config.channelUrl channel with
  | .error error => (.error (.invalidUrl error.message), [])
  | .ok url =>
    match attempt with
    | .unreachable reason => (.error (.transport channel reason), [])
    | .refused reason => (.error (.transport channel reason), [.refused])
    | .accepted events =>
      let written := [.opened, .text (connectFrame (hostName url)).encode]
      match awaitAnswer channel events with
      | .error error => (.error error, written)
      | .ok _ => (.ok { channel }, written)

end Session

/-- What an attempt brings behind the answer that grants it. -/
def Attempt.behind (channel : Channel) : Attempt → List SocketEvent
  | accepted events =>
    match Session.awaitAnswer channel events with
    | .ok rest => rest
    | .error _ => []
  | _ => []

end ClassroomClient
