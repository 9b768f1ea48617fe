/-
# URLs

The parts of a URL and its text. A URL with an authority names a host, which may be empty where
the scheme allows it. A path is either a list of segments, each behind a slash, or a text that
begins with none.
-/

import ClassroomClient.Url.Host

namespace ClassroomClient

/-- Who and where a URL addresses. -/
structure Authority where
  username : List Char
  password : List Char
  host : Url.Host
  port : Option Nat
  deriving DecidableEq, Repr, Inhabited

/-- The path of a URL. -/
inductive UrlPath
  | segments (names : List (List Char))
  | rootless (text : List Char)
  deriving DecidableEq, Repr, Inhabited

/-- A URL in its normal form. -/
structure Url where
  scheme : List Char
  authority : Option Authority
  path : UrlPath
  query : Option (List Char)
  fragment : Option (List Char)
  deriving DecidableEq, Repr, Inhabited

/-- The text of a path. -/
def UrlPath.text : UrlPath → List Char
  | segments names => names.flatMap fun name => '/' :: name
  | rootless text => text

/-- The user name and the password with the sign behind them, if there are any. -/
def Authority.userText (authority : Authority) : List Char :=
  let password := if authority.password.isEmpty then [] else ':' :: authority.password
  if authority.username.isEmpty && authority.password.isEmpty then []
  else authority.username ++ password ++ ['@']

/-- The text of an authority. -/
def Authority.text (authority : Authority) : List Char :=
  let port := match authority.port with
    | some port => ':' :: Text.decimal port
    | none => []
  authority.userText ++ authority.host.text ++ port

namespace Url

/-- The schemes that http clients know, apart from `file`, with their default ports. -/
def wellKnownPorts : List (List Char × Nat) :=
  [("http".toList, 80), ("https".toList, 443), ("ws".toList, 80), ("wss".toList, 443),
   ("ftp".toList, 21)]

/-- The default port of a scheme. -/
def defaultPort? (scheme : List Char) : Option Nat :=
  (wellKnownPorts.find? (·.1 == scheme)).map (·.2)

/-- How the texts of a scheme are read. -/
inductive SchemeKind
  | wellKnown
  | file
  | other
  deriving DecidableEq, Repr

/-- The kind of a scheme. -/
def SchemeKind.of (scheme : List Char) : SchemeKind :=
  if scheme == "file".toList then file
  else if (defaultPort? scheme).isSome then wellKnown
  else other

/-- Whether backslashes count as slashes and a path is never empty. -/
def SchemeKind.isSpecial : SchemeKind → Bool
  | other => false
  | _ => true

/-- The text of a URL up to its path. A path that would look like an authority is kept apart
by a dot segment. -/
def front (url : Url) : List Char :=
  url.scheme ++ ':' ::
    match url.authority with
    | some authority => '/' :: '/' :: authority.text
    | none =>
      match url.path with
      | .segments ([] :: _ :: _) => ['/', '.']
      | _ => []

/-- The characters of a URL. -/
def chars (url : Url) : List Char :=
  let query := match url.query with
    | some query => '?' :: query
    | none => []
  let fragment := match url.fragment with
    | some fragment => '#' :: fragment
    | none => []
  url.front ++ url.path.text ++ query ++ fragment

/-- The text of a URL. -/
def text (url : Url) : String :=
  String.ofList url.chars

/-- Whether the URL is one of a web server. -/
def isWeb (url : Url) : Bool :=
  url.scheme == "http".toList || url.scheme == "https".toList

/-- The host, if there is one with a name or an address. -/
def host? (url : Url) : Option Host :=
  match url.authority with
  | some { host := .domain [], .. } => none
  | some authority => some authority.host
  | none => none

/-- The URL under another scheme. Special schemes do not change places with others, and a URL
with an authority does not become one of a file. A special scheme needs a host, and a port that
is the default of the new scheme is left out. -/
def withScheme? (url : Url) (scheme : List Char) : Option Url :=
  let kind := SchemeKind.of scheme
  if kind.isSpecial != (SchemeKind.of url.scheme).isSpecial then none
  else if kind == .file && url.authority.isSome then none
  else if kind.isSpecial && url.host?.isNone then none
  else
    let authority := url.authority.map fun authority =>
      if authority.port == defaultPort? scheme then { authority with port := none } else authority
    some { url with scheme, authority }

end Url

end ClassroomClient
