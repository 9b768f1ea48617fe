/-
# Steps of a run

Everything that can happen to a running client is an event, and `Client.step` says what the
client does at it. Nothing is assumed about the order of events: each of the things that the
client does at once takes its steps whenever an event lets it.
-/

import ClassroomClient.Client.Basic

namespace ClassroomClient

open Exchange

/-- What can happen to a running client. -/
inductive Event
  /-- A line is typed. -/
  | line (text : String)
  /-- No more lines will be typed. -/
  | endOfInput
  /-- The handling of lines goes on, with the files as they are now. -/
  | advance (read : FileReader) (now : Int)
  /-- Something comes in on a channel. -/
  | receive (channel : Channel) (event : SocketEvent)
  /-- From now on frames on a channel do not reach the server. -/
  | lose (channel : Channel) (reason : String)
  /-- The first message of the queue is rendered. -/
  | render (now : Int)
  /-- A download is answered. -/
  | answer (number : Nat) (answer : HttpAnswer)
  /-- Somebody looks whether a channel has been lost. -/
  | look (channel : Channel)

namespace Client

/-! ## Typed lines -/

/-- Ends the run: the losses of channels are not reported any more and all sessions are torn
down. -/
def shutDown (client : Client) : Client × List Output :=
  let (manager, log) := client.manager.disconnectAll
  ({ client with manager, watched := [], stage := .ended }, wireOutputs log)

/-- Prints a text and the prompt. -/
def printPrompted (client : Client) (text : String) : Client × List Output :=
  (client, [.print text, client.prompt])

/-- The page after the tests of a line have been chosen. A disabled control keeps the tests
chosen before. -/
def selectTests (page : Page) (names : List String) : Page :=
  if page.isDisabled .test then page else page.selectTests names

/-- Begins to handle a line. -/
def handleCommand (client : Client) (command : UserCommand) : Client × List Output :=
  let refresh (action : Action) (page : Page) : Client × List Output :=
    ({ client with page, stage := .refreshing action client.config.editableFiles }, [])
  match command with
  | .quit => client.shutDown
  | .help => client.printPrompted helpText
  | .page => client.printPrompted (Display.page client.page)
  | .files => { client with stage := .listing }.fetchListing .listing
  | .unknown text =>
    client.printPrompted (Display.error s!"Unknown command '{text}', try 'help'")
  | .compile => refresh .compile client.page
  | .test names => refresh .test (selectTests client.page names)
  | .submit => refresh .submit client.page

/-- Builds the request of an action. Without a control session the line ends here, and without
a prompt. -/
def prepareAction (client : Client) (action : Action) : Client × List Output :=
  match client.manager.session? .control with
  | none =>
    ({ client with stage := .ready }, [.print (Display.error "Control channel is not open")])
  | some _ =>
    match Submission.prepare client.config.team client.page action with
    | (page, .error error) =>
      { client with page, stage := .ready }.printPrompted (Display.error error.message)
    | (page, .ok request) => ({ client with page, stage := .sending action request }, [])

/-- Sends a request and reports how it went. -/
def sendRequest (client : Client) (now : Int) (action : Action) (request : Request) :
    Client × List Output :=
  let (manager, result, log) :=
    client.manager.send .control action.destination (String.ofList request.text)
  let client := { client with manager, stage := .ready }
  let text := match result with
    | .ok () => Display.sent action request now
    | .error error => Display.error (DispatchError.send error).message
  let (client, printed) := client.printPrompted text
  (client, wireOutputs log ++ printed)

/-- The next step in handling typed lines. -/
def advance (client : Client) (read : FileReader) (now : Int) : Client × List Output :=
  match client.stage with
  | .ready =>
    match client.lines with
    | line :: rest => { client with lines := rest }.handleCommand (.ofLine line)
    | [] => if client.hasInput then (client, []) else client.shutDown
  | .listing | .ended => (client, [])
  | .refreshing action (spec :: left) =>
    ({ client with
        page := refreshEditor read client.page spec, stage := .refreshing action left }, [])
  | .refreshing action [] => client.prepareAction action
  | .sending action request => client.sendRequest now action request

/-- Takes a typed line. Blanks around it are cut off, and a blank line is passed over. -/
def takeLine (client : Client) (text : String) : Client × List Output :=
  let line := String.ofList (Text.trim text.toList)
  if line.isEmpty || !client.hasInput then (client, [])
  else ({ client with lines := client.lines ++ [line] }, [])

/-! ## Messages -/

/-- The region that is printed after a notification. -/
def shownRegion? : Notification → Option String
  | .testResult feedback => feedback.test
  | .compileResult _ => some Region.output
  | .broadcast _ => some Region.response
  | _ => none

/-- What is printed after a notification has been rendered. -/
def announce (page : Page) (notification : Notification) : List Output :=
  match notification with
  | .roundStart => [.print (Display.reloaded page.reloadCount)]
  | .roundStop _ => [.print Display.locked]
  | _ =>
    match shownRegion? notification with
    | some name => printRegion page name
    | none => []

/-- Begins the downloads that a notification asks for. -/
def followUp (client : Client) : FollowUp → Client × List Output
  | .none => (client, [])
  | .reloaded => client.fetchListing .reloadedListing
  | .refreshRankings => client.fetchRankings

/-- Renders a notification. -/
def renderNotification (client : Client) (now : Int) (notification : Notification) :
    Client × List Output :=
  let (page, next) := client.page.render now notification
  let (client, fetched) := { client with page }.followUp next
  (client, announce page notification ++ client.prompt :: fetched)

/-- Renders the first message of the queue. A message without a meaning is passed over. -/
def renderNext (client : Client) (now : Int) : Client × List Output :=
  match client.queue with
  | [] => (client, [])
  | message :: rest =>
    let client := { client with queue := rest }
    match Notification.decode message.topic message.body with
    | .ok notification => client.renderNotification now notification
    | .error _ => (client, [])

/-- Takes what comes in on a channel. A message that has a handler enters the queue. -/
def receive (client : Client) (channel : Channel) (event : SocketEvent) :
    Client × List Output :=
  let (manager, delivery) := client.manager.receive channel event
  ({ client with manager, queue := client.queue ++ (delivery.map (·.2)).toList }, [])

/-! ## Answers and losses -/

/-- Takes the answer of a download. -/
def takeAnswer (client : Client) (number : Nat) (answer : HttpAnswer) :
    Client × List Output :=
  match client.downloads.lookup number with
  | none => (client, [])
  | some purpose =>
    let client := { client with
      downloads := client.downloads.filter fun (other, _) => other != number }
    match purpose with
    | .listing =>
      let (client, shown) := client.showListing (Download.files.read answer)
      let (client, ended) := client.endListing
      (client, shown ++ ended)
    | .reloadedListing =>
      let (client, shown) := client.showListing (Download.files.read answer)
      let (client, next) := client.fetchRankings
      (client, shown ++ next)
    | .rankings =>
      let path := client.config.rankingsPath.getD ""
      let (client, shown) := client.showRankings ((rankingsDownload path).read answer)
      (client, shown ++ [client.prompt])

/-- The notice that a channel has been lost. -/
def lossNotice (channel : Channel) : String :=
  Display.error s!"Lost the '{channel.name}' channel, restart the client to reconnect"

/-- Reports the loss of a channel, once. -/
def look (client : Client) (channel : Channel) : Client × List Output :=
  if client.watched.contains channel && !client.manager.isConnected channel then
    ({ client with watched := client.watched.filter (· != channel) },
      [.print (lossNotice channel)])
  else (client, [])

/-- The connection of a channel does not carry frames any more. -/
def lose (client : Client) (channel : Channel) (reason : String) : Client × List Output :=
  ({ client with manager := client.manager.lose channel reason }, [])

/-! ## Runs -/

/-- What the client does at an event. A client that has ended does nothing. -/
def step (client : Client) (event : Event) : Client × List Output :=
  if client.stage = .ended then (client, [])
  else
    match event with
    | .line text => client.takeLine text
    | .endOfInput => ({ client with hasInput := false }, [])
    | .advance read now => client.advance read now
    | .receive channel event => client.receive channel event
    | .lose channel reason => client.lose channel reason
    | .render now => client.renderNext now
    | .answer number answer => client.takeAnswer number answer
    | .look channel => client.look channel

/-- What the client does at events one after the other. -/
def run (client : Client) : List Event → Client × List Output
  | [] => (client, [])
  | event :: rest =>
    let (client, first) := client.step event
    let (client, later) := client.run rest
    (client, first ++ later)

end Client

end ClassroomClient
