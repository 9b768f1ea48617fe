/-
# The client

The client ties the parts together: the page, the sessions, the downloads and the prompt. It
works on several things at once. Typed lines are handled one after the other, each in several
steps. Messages wait in a queue until they are rendered, downloads go on beside all that, and
for each channel somebody waits for the loss of its connection. This module holds the state in
which all of that stands and the start of a run.
-/

import ClassroomClient.Display
import ClassroomClient.Download
import ClassroomClient.Page.Render
import ClassroomClient.Prompt
import ClassroomClient.Session.Opening

namespace ClassroomClient

open Exchange

/-- Reads the file of a path, or says why it cannot be read. -/
abbrev FileReader := String → Except String String

/-- Why the client does not run. -/
inductive ClientError
  | connection (error : SessionError)
  | config (error : ConfigError)
  deriving DecidableEq, Repr, Inhabited

/-- The wording of a client error. -/
def ClientError.message : ClientError → String
  | connection error => s!"Connection error: {error.message}"
  | config error => error.message

/-- Whom the answer of a download is for. -/
inductive Purpose
  /-- The line that is being handled, or the start. -/
  | listing
  /-- A reload, which goes on with the rankings. -/
  | reloadedListing
  | rankings
  deriving DecidableEq, Repr, Inhabited

/-- How far the handling of typed lines has got. -/
inductive Stage
  | ready
  /-- The listing of the files has been asked for. -/
  | listing
  /-- Files have still to be read again before the action. -/
  | refreshing (action : Action) (left : List FileSpec)
  /-- The request has been built but not sent. -/
  | sending (action : Action) (request : Request)
  | ended
  deriving DecidableEq, Repr, Inhabited

/-- What others see of a run: printed texts, what goes over the connections, and downloads
with their numbers. -/
inductive Output
  | print (text : String)
  | wire (channel : Channel) (event : WireEvent)
  | fetch (number : Nat) (url : Url)
  deriving DecidableEq, Repr, Inhabited

/-- The text that outputs print. -/
def Output.printed (outputs : List Output) : String :=
  String.join (outputs.filterMap fun
    | .print text => some text
    | _ => none)

/-- What outputs put on the connections. -/
def Output.wires (outputs : List Output) : WireLog :=
  outputs.filterMap fun
    | .wire channel event => some (channel, event)
    | _ => none

/-- The state of the client after its channels have been opened. -/
structure Client where
  config : Config
  page : Page
  manager : Manager Unit
  /-- Messages that have come but are not rendered yet. -/
  queue : List Inbound := []
  /-- Channels of which the loss has not been reported. -/
  watched : List Channel := []
  /-- Typed lines that are not handled yet. -/
  lines : List String := []
  /-- Whether more lines can be typed. -/
  hasInput : Bool := true
  stage : Stage := .ready
  /-- Downloads without an answer. -/
  downloads : List (Nat × Purpose) := []
  /-- The number of downloads so far. -/
  downloadCount : Nat := 0
  deriving Inhabited

/-! ## Files -/

/-- The name under which a file is shown and sent: the last name of its path. A path that ends
with the directory above has no such name and is shown as a whole. -/
def displayName (path : String) : String :=
  let names := (path.toList.splitOn '/').filter fun name => name != [] && name != ['.']
  match names.getLast? with
  | none | some ['.', '.'] => path
  | some name => String.ofList name

/-- Reads a file of the configuration. -/
def readFile (read : FileReader) (path : String) : Except ConfigError String :=
  (read path).mapError fun reason => .unreadableFile path reason

/-- The page with an editor for each file. -/
def loadPage (read : FileReader) (files : List FileSpec) : Except ConfigError Page :=
  files.foldlM (fun page spec => do
    let content ← readFile read spec.path
    return page.addEditor (.fresh (displayName spec.path) spec.kind content)) Page.empty

/-- Takes over what has been edited in a file. A file that cannot be read keeps its content. -/
def refreshEditor (read : FileReader) (page : Page) (spec : FileSpec) : Page :=
  match read spec.path with
  | .ok content => page.setContent (displayName spec.path) content
  | .error _ => page

/-- The files that are read again before an action. -/
def Config.editableFiles (config : Config) : List FileSpec :=
  config.files.filter (·.kind == .edit)

namespace Client

/-! ## Printing -/

/-- The prompt. -/
def prompt (client : Client) : Output := .print (client.config.team ++ "> ")

/-- A region of a page as it is printed, if the page has it. -/
def printRegion (page : Page) (name : String) : List Output :=
  match page.region? name with
  | some text => [.print (Display.region name (page.tabColor name) text)]
  | none => []

/-- The greeting of a team. -/
def greeting (team : String) : String :=
  s!"\nYou are team '{team}'. Type 'help' for commands, 'quit' to exit.\n\n"

/-! ## Downloads -/

/-- Shows the listing of the assignment files, if there is one. -/
def showListing (client : Client) (result : Except HttpError (Option String)) :
    Client × List Output :=
  match result with
  | .ok (some listing) =>
    let page := client.page.setRegion Region.files listing
    ({ client with page }, printRegion page Region.files)
  | _ => (client, [])

/-- Shows the rankings, if there are any. -/
def showRankings (client : Client) (result : Except HttpError (Option String)) :
    Client × List Output :=
  match result with
  | .ok (some fragment) =>
    let page := client.page.setRegion Region.rankings fragment
    ({ client with page }, printRegion page Region.rankings)
  | _ => (client, [])

/-- The line that asked for the listing has been handled. -/
def endListing (client : Client) : Client × List Output :=
  ({ client with stage := .ready }, [client.prompt])

/-- The rankings as a download. -/
def rankingsDownload (path : String) : Download := .fragment path Region.rankings

/-- Asks for the rankings. A path that leads nowhere ends the work at once. -/
def fetchRankings (client : Client) : Client × List Output :=
  match client.config.rankingsPath with
  | none => (client, [client.prompt])
  | some path =>
    match (rankingsDownload path).url client.config.baseUrl with
    | .error _ => (client, [client.prompt])
    | .ok url =>
      let number := client.downloadCount
      ({ client with
          downloads := client.downloads ++ [(number, .rankings)], downloadCount := number + 1 },
        [.fetch number url])

/-- Asks for the listing of the assignment files. -/
def fetchListing (client : Client) (purpose : Purpose) : Client × List Output :=
  match Download.files.url client.config.baseUrl with
  | .error _ =>
    match purpose with
    | .reloadedListing => client.fetchRankings
    | _ => client.endListing
  | .ok url =>
    let number := client.downloadCount
    ({ client with
        downloads := client.downloads ++ [(number, purpose)], downloadCount := number + 1 },
      [.fetch number url])

/-! ## Start -/

/-- What a log of the connections adds to the outputs. -/
def wireOutputs (log : WireLog) : List Output :=
  log.map fun (channel, event) => .wire channel event

/-- Starts the client: reads the files, opens the channels, greets the team and asks for the
listing of the files. What has come in by then waits to be rendered. -/
def start (config : Config) (read : FileReader) (attempt : Channel → Attempt)
    (meanwhile : Task → List Incident := fun _ => []) :
    Except ClientError Client × List Output :=
  match loadPage read config.files with
  | .error error => (.error (.config error), [])
  | .ok page =>
    let opening := (Manager.empty : Manager Unit).opening config () attempt meanwhile
    match opening.result with
    | .error error => (.error (.connection error), wireOutputs opening.log)
    | .ok () =>
      let client : Client :=
        { config, page, manager := opening.manager, queue := opening.delivered.map (·.2)
          watched := opening.manager.channels, stage := .listing }
      let (client, fetched) := client.fetchListing .listing
      (.ok client, wireOutputs opening.log ++ .print (greeting config.team) :: fetched)

end Client

end ClassroomClient
