/-
# Configuration

Where the server is, which team works, and which files are edited. The addresses of the
channels and of all other pages follow from the base URL.
-/

import ClassroomClient.Channel
import ClassroomClient.Page.Editor
import ClassroomClient.Url.Parser

namespace ClassroomClient

/-- Why the client cannot be configured or started. -/
inductive ConfigError
  | invalidBaseUrl (url reason : String)
  | unreadableFile (path reason : String)
  deriving DecidableEq, Repr, Inhabited

/-- The wording of a configuration error. -/
def ConfigError.message : ConfigError → String
  | invalidBaseUrl url reason => s!"Invalid base URL '{url}': {reason}"
  | unreadableFile path reason => s!"Failed to read '{path}': {reason}"

/-- A file to edit, with its kind. -/
structure FileSpec where
  path : String
  kind : FileKind
  deriving DecidableEq, Repr, Inhabited

/-- Splits a text at its last colon. -/
def splitLastColon? (text : List Char) : Option (List Char × List Char) :=
  let reversed := text.reverse
  match reversed.dropWhile (· != ':') with
  | [] => none
  | _ :: before => some (before.reverse, (reversed.takeWhile (· != ':')).reverse)

/-- Reads a file with the kind behind its last colon. Anything else behind a colon belongs to
the path, and the file is one to edit. -/
def FileSpec.ofText (text : String) : FileSpec :=
  match splitLastColon? text.toList with
  | some (path, word) =>
    match FileKind.ofWord? (String.ofList word) with
    | some kind => { path := String.ofList path, kind }
    | none => { path := text, kind := .edit }
  | none => { path := text, kind := .edit }

/-- The configuration of a client. -/
structure Config where
  /-- Where the web server is. -/
  baseUrl : Url
  onWeb : baseUrl.isWeb = true
  team : String
  /-- The page of the rankings. Only with one the feedback channel is used. -/
  rankingsPath : Option String
  files : List FileSpec
  deriving DecidableEq, Repr

namespace Config

instance : Inhabited Config :=
  ⟨{ baseUrl := { (default : Url) with scheme := "http".toList }, onWeb := rfl
     team := default, rankingsPath := default, files := default }⟩

/-- The team that is taken when none is given. -/
def defaultTeam : String := "team1"

/-- The base URL that is taken when none is given. -/
def defaultUrl : String := "http://127.0.0.1:8080"

/-- A configuration without files and rankings. The base URL must be one of a web server. -/
def ofBase (baseUrl team : String) : Except ConfigError Config :=
  match Url.parse baseUrl with
  | .error error => .error (.invalidBaseUrl baseUrl error.message)
  | .ok url =>
    if onWeb : url.isWeb then
      .ok { baseUrl := url, onWeb, team, rankingsPath := none, files := [] }
    else
      .error (.invalidBaseUrl url.text "scheme must be http or https")

/-- The URL of a path on the server. -/
def httpUrl (config : Config) (path : String) : Except ConfigError Url :=
  match config.baseUrl.join path with
  | .ok url => .ok url
  | .error error => .error (.invalidBaseUrl (config.baseUrl.text ++ path) error.message)

/-- The path of a channel on the server. -/
def channelPath (channel : Channel) : String := channel.endpoint ++ "/websocket"

/-- The URL under which a channel is opened. -/
def channelUrl (config : Config) (channel : Channel) : Except ConfigError Url := do
  let url ← config.httpUrl (channelPath channel)
  let scheme := if url.scheme == "https".toList then "wss".toList else "ws".toList
  match url.withScheme? scheme with
  | some url => return url
  | none => throw (.invalidBaseUrl url.text s!"cannot switch scheme to {String.ofList scheme}")

end Config

end ClassroomClient
