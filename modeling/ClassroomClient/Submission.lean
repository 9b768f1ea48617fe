/-
# Sending requests

An action of the user becomes a request: its effects on the page come first, then the request
is built, and then it is sent. The page keeps these effects even if sending fails.
-/

import ClassroomClient.Channel
import ClassroomClient.Page.Basic

namespace ClassroomClient

open Exchange

/-- Why a message was not sent. -/
inductive SendError
  | notConnected (channel : Channel)
  | transport (channel : Channel) (reason : String)
  deriving DecidableEq, Repr, Inhabited

/-- The wording of a sending error. -/
def SendError.message : SendError → String
  | notConnected channel => s!"Session on '{channel.name}' channel is not connected"
  | transport channel reason => s!"Failed to send on '{channel.name}' channel: {reason}"

/-- Why an action was not carried out. -/
inductive DispatchError
  | controlDisabled (action : Action)
  | send (error : SendError)
  deriving DecidableEq, Repr, Inhabited

/-- The wording of a failed action. -/
def DispatchError.message : DispatchError → String
  | controlDisabled action => s!"'{action.name}' is disabled until the page is reloaded"
  | send error => error.message

/-- Something that messages are sent through, with a state of type `σ`. It takes a destination
and a payload. -/
abbrev Sink (σ : Type) := σ → String → String → σ × Except SendError Unit

namespace Submission

/-- What an action does to the page before its request is sent. -/
def pageAfter (page : Page) : Action → Page
  | .compile => page
  | .test => page.clearTestOutputs
  | .submit => page.disable

/-- The request of an action. Only a test request names tests. -/
def request (team : String) (page : Page) (action : Action) : Request where
  team := team
  source := page.sources
  tests := match action with
    | .test => some page.selectedTests
    | _ => none

/-- Carries out the effects of an action on the page and builds its request. A disabled control
refuses and changes nothing. -/
def prepare (team : String) (page : Page) (action : Action) :
    Page × Except DispatchError Request :=
  if page.isDisabled action then
    (page, .error (.controlDisabled action))
  else
    (pageAfter page action, .ok (request team page action))

/-- Prepares an action and sends its request. -/
def dispatch {σ : Type} (team : String) (sink : Sink σ) (state : σ) (page : Page)
    (action : Action) : σ × Page × Except DispatchError Request :=
  match prepare team page action with
  | (page, .error error) => (state, page, .error error)
  | (page, .ok request) =>
    match sink state action.destination (String.ofList request.text) with
    | (state, .ok ()) => (state, page, .ok request)
    | (state, .error error) => (state, page, .error (.send error))

end Submission

end ClassroomClient
