/-
# Sessions by channel

The manager holds at most one session per channel. Opening a channel keeps a session that is
connected and replaces any other.
-/

import ClassroomClient.Session.Handshake

namespace ClassroomClient

/-- The sessions of the channels. -/
structure Manager (Handler : Type) where
  session? : Channel → Option (Session Handler)

/-- What the server sees on the connections of the channels. -/
abbrev WireLog := List (Channel × WireEvent)

namespace Manager

variable {Handler : Type}

/-- No session at all. -/
def empty : Manager Handler := { session? := fun _ => none }

instance : Inhabited (Manager Handler) := ⟨empty⟩

/-- Puts a session on a channel, or removes the one that is there. -/
def set (manager : Manager Handler) (channel : Channel) (session : Option (Session Handler)) :
    Manager Handler :=
  { session? := fun other => if other = channel then session else manager.session? other }

/-- The channels that have a session, connected or not. -/
def channels (manager : Manager Handler) : List Channel :=
  Channel.all.filter fun channel => (manager.session? channel).isSome

/-- Whether a channel has a session that is connected. -/
def isConnected (manager : Manager Handler) (channel : Channel) : Bool :=
  ((manager.session? channel).map (·.isConnected)).getD false

/-- Marks events as those of a channel. -/
def onChannel (channel : Channel) (written : List WireEvent) : WireLog :=
  written.map fun event => (channel, event)

/-- Tears down the session of a channel and removes it. -/
def discard (manager : Manager Handler) (channel : Channel) : Manager Handler × WireLog :=
  match manager.session? channel with
  | none => (manager, [])
  | some session => (manager.set channel none, onChannel channel session.disconnect.2)

/-- Opens the session of a channel unless one is connected. What the attempt has brought behind its
grant is taken in at once, so that the connection may have ended again. -/
def openChannel (manager : Manager Handler) (config : Config) (channel : Channel)
    (attempt : Attempt) : Manager Handler × Except SessionError Unit × WireLog :=
  if manager.isConnected channel then (manager, .ok (), [])
  else
    let (manager, discarded) := manager.discard channel
    match Session.connect config channel attempt with
    | (.error error, written) =>
      (manager, .error error, discarded ++ onChannel channel written)
    | (.ok session, written) =>
      let session := session.receiveEarly (attempt.behind channel)
      (manager.set channel (some session), .ok (), discarded ++ onChannel channel written)

/-- Tears down all sessions and removes them. -/
def disconnectAll (manager : Manager Handler) : Manager Handler × WireLog :=
  Channel.all.foldl (fun (manager, log) channel =>
    let (manager, written) := manager.discard channel
    (manager, log ++ written)) (manager, [])

/-- Registers the handler of a topic of a channel. -/
def subscribe (manager : Manager Handler) (channel : Channel) (topic : String)
    (handler : Handler) : Manager Handler × Except SessionError Unit × WireLog :=
  match manager.session? channel with
  | none => (manager, .error (.notConnected channel), [])
  | some session =>
    let (session, result, written) := session.subscribe topic handler
    (manager.set channel (some session), result, onChannel channel written)

/-- Something happens on the connection of a channel. -/
def receive (manager : Manager Handler) (channel : Channel) (event : SocketEvent) :
    Manager Handler × Option (Handler × Inbound) :=
  match manager.session? channel with
  | none => (manager, none)
  | some session =>
    let (session, delivery) := session.receive event
    (manager.set channel (some session), delivery)

/-- Sends a payload on a channel. -/
def send (manager : Manager Handler) (channel : Channel) (destination payload : String) :
    Manager Handler × Except SendError Unit × WireLog :=
  match manager.session? channel with
  | none => (manager, .error (.notConnected channel), [])
  | some session =>
    let (session, result, written) := session.send destination payload
    (manager.set channel (some session), result, onChannel channel written)

/-- From now on frames on a channel do not reach the server. -/
def lose (manager : Manager Handler) (channel : Channel) (reason : String) : Manager Handler :=
  manager.set channel ((manager.session? channel).map (·.lose reason))

end Manager

end ClassroomClient
