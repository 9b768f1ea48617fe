/-
# Opening the channels

The client needs the submit channel and the control channel, and the feedback channel for the
rankings. It opens one after the other and subscribes to all topics of each before it goes on to
the next. All that takes several tasks, and between any two of them things can happen on the
connections that are open by then: messages come in, and connections end.
-/

import ClassroomClient.Session.Manager

namespace ClassroomClient

/-- Something that happens on the connection of a channel without the client doing anything. -/
inductive Incident
  | receive (channel : Channel) (event : SocketEvent)
  /-- From now on frames do not reach the server. -/
  | lose (channel : Channel) (reason : String)
  deriving DecidableEq, Repr, Inhabited

/-- Something that the client does to open channels. -/
inductive Task
  | connect (channel : Channel)
  | subscribe (channel : Channel) (topic : String)
  deriving DecidableEq, Repr, Inhabited

/-- What is done to open a channel with all of its topics. -/
def Channel.tasks (channel : Channel) : List Task :=
  .connect channel :: channel.topics.map (.subscribe channel)

/-- What opening channels comes to. -/
structure Opening (Handler : Type) where
  manager : Manager Handler
  result : Except SessionError Unit := .ok ()
  log : WireLog := []
  /-- What has come in meanwhile, with the handlers that it went to. -/
  delivered : List (Handler × Inbound) := []

namespace Manager

variable {Handler : Type}

/-- Takes in what happens. -/
def meet (manager : Manager Handler) :
    List Incident → Manager Handler × List (Handler × Inbound)
  | [] => (manager, [])
  | .receive channel event :: rest =>
    let (manager, delivery) := manager.receive channel event
    let (manager, later) := manager.meet rest
    (manager, delivery.toList ++ later)
  | .lose channel reason :: rest => (manager.lose channel reason).meet rest

/-- Carries out a task. -/
def carryOut (manager : Manager Handler) (config : Config) (handler : Handler)
    (attempt : Channel → Attempt) :
    Task → Manager Handler × Except SessionError Unit × WireLog
  | .connect channel => manager.openChannel config channel (attempt channel)
  | .subscribe channel topic => manager.subscribe channel topic handler

/-- Carries out tasks one after the other, up to the first one that fails. Each meets what has
happened by then. -/
def work (manager : Manager Handler) (config : Config) (handler : Handler)
    (attempt : Channel → Attempt) (meanwhile : Task → List Incident) :
    List Task → Opening Handler
  | [] => { manager }
  | task :: rest =>
    let (manager, early) := manager.meet (meanwhile task)
    match manager.carryOut config handler attempt task with
    | (manager, .error error, log) =>
      { manager, result := .error error, log, delivered := early }
    | (manager, .ok (), log) =>
      let later := manager.work config handler attempt meanwhile rest
      { later with log := log ++ later.log, delivered := early ++ later.delivered }

/-- The tasks that the client cannot do without. -/
def requiredTasks : List Task := Channel.submit.tasks ++ Channel.control.tasks

/-- Opens the channels that the client needs. Without the feedback channel, which serves the
rankings only, the client goes on. -/
def opening (manager : Manager Handler) (config : Config) (handler : Handler)
    (attempt : Channel → Attempt) (meanwhile : Task → List Incident := fun _ => []) :
    Opening Handler :=
  let required := manager.work config handler attempt meanwhile requiredTasks
  if required.result.isOk && config.rankingsPath.isSome then
    let extra := required.manager.work config handler attempt meanwhile Channel.feedback.tasks
    { manager := extra.manager, log := required.log ++ extra.log
      delivered := required.delivered ++ extra.delivered }
  else required

/-- Opens the channels when nobody looks at what comes in meanwhile. -/
def openChannels (manager : Manager Handler) (config : Config) (handler : Handler)
    (attempt : Channel → Attempt) (meanwhile : Task → List Incident := fun _ => []) :
    Manager Handler × Except SessionError Unit × WireLog :=
  let opening := manager.opening config handler attempt meanwhile
  (opening.manager, opening.result, opening.log)

end Manager

end ClassroomClient
