/-
# Reading URLs

Reads a URL from a text, by itself or relative to a URL with one of the schemes of web servers.
Blanks and control characters around the text and line ends inside it do not count.
-/

import ClassroomClient.Text.Blank
import ClassroomClient.Url.Path

namespace ClassroomClient.Url

/-- The characters of a text that count. -/
def significant (text : List Char) : List Char :=
  let isOuter := fun c : Char => c.toNat ≤ 0x20
  (Text.dropTrailing isOuter (text.dropWhile isOuter)).filter fun c =>
    c != '\t' && c != '\n' && c != '\r'

/-- Whether a character may stand in a scheme behind the first letter. -/
def isSchemeChar (c : Char) : Bool :=
  c.isAlphanum || c == '+' || c == '-' || c == '.'

/-- Splits a scheme off a text. -/
def splitScheme? (text : List Char) : Option (List Char × List Char) :=
  match text with
  | [] => none
  | first :: _ =>
    if first.isAlpha then
      match text.dropWhile isSchemeChar with
      | ':' :: rest => some ((text.takeWhile isSchemeChar).map Char.toLower, rest)
      | _ => none
    else
      none

/-- Whether a character is a slash in the texts of a scheme that is special. -/
def isSlash (c : Char) : Bool := c == '/' || c == '\\'

/-- Reads the query and the fragment behind a path. -/
def readTail (kind : SchemeKind) (text : List Char) : Option (List Char) × Option (List Char) :=
  let fragmentOf := fun rest : List Char => match rest with
    | '#' :: fragment => some (encode EncodeSet.fragment fragment)
    | _ => none
  match text with
  | '?' :: rest =>
    let query := rest.takeWhile (· != '#')
    let set := if kind.isSpecial then EncodeSet.wellKnownQuery else EncodeSet.query
    (some (encode set query), fragmentOf (rest.dropWhile (· != '#')))
  | _ => (none, fragmentOf text)

/-- Whether a character ends the authority. -/
def endsAuthority (kind : SchemeKind) (c : Char) : Bool :=
  c == '/' || c == '?' || c == '#' || (kind.isSpecial && c == '\\')

/-- Splits a text at its last `@`. -/
def splitLastAt? (text : List Char) : Option (List Char × List Char) :=
  let reversed := text.reverse
  match reversed.dropWhile (· != '@') with
  | [] => none
  | _ :: before => some (before.reverse, (reversed.takeWhile (· != '@')).reverse)

/-- Reads a user name and a password. -/
def readUser (text : List Char) : List Char × List Char :=
  let name := text.takeWhile (· != ':')
  let password := (text.dropWhile (· != ':')).drop 1
  (encode EncodeSet.userInfo name, encode EncodeSet.userInfo password)

/-- The length of the host at the front of a text. A colon ends it, except between brackets. -/
def hostLength (kind : SchemeKind) : Bool → List Char → Nat
  | _, [] => 0
  | bracketed, c :: rest =>
    if endsAuthority kind c || (c == ':' && !bracketed) then 0
    else
      let bracketed := if c == '[' then true else if c == ']' then false else bracketed
      hostLength kind bracketed rest + 1

/-- Reads the digits of a port. The port ends where the path, the query or the fragment
begins. -/
def readPortDigits : Option Nat → List Char → Except UrlError (Option Nat × List Char)
  | port, [] => .ok (port, [])
  | port, c :: rest =>
    if c.isDigit then
      let next := port.getD 0 * 10 + (c.toNat - '0'.toNat)
      if 65535 < next then .error .invalidPort else readPortDigits (some next) rest
    else if isSlash c || endsPath c then
      .ok (port, c :: rest)
    else
      .error .invalidPort

/-- Reads a port, which is left out when it is the default of the scheme. -/
def readPort (scheme : List Char) (text : List Char) :
    Except UrlError (Option Nat × List Char) :=
  match text with
  | ':' :: digits => do
    let (port, rest) ← readPortDigits none digits
    return (if port == defaultPort? scheme then none else port, rest)
  | _ => .ok (none, text)

/-- Reads an authority behind its slashes. -/
def readAuthority (scheme : List Char) (kind : SchemeKind) (text : List Char) :
    Except UrlError (Authority × List Char) :=
  let size := (text.takeWhile fun c => !endsAuthority kind c).length
  let (username, password, unnamed, text) := match splitLastAt? (text.take size) with
    | none => ([], [], false, text)
    | some (user, front) =>
      let (username, password) := readUser user
      (username, password, user.isEmpty, front ++ text.drop size)
  let hasUser := !username.isEmpty || !password.isEmpty
  if unnamed && text.head?.any (endsAuthority kind) then
    .error .emptyHost
  else do
    let length := hostLength kind false text
    let hostText := text.take length
    let rest := text.drop length
    let host ←
      if kind == .wellKnown && hostText.isEmpty then .error .emptyHost
      else if kind.isSpecial then readHost hostText
      else readPlainHost hostText
    if host == .domain [] && (rest.head? == some ':' || hasUser) then
      .error .emptyHost
    else
      let (port, rest) ← readPort scheme rest
      return ({ username, password, host, port }, rest)

/-- Reads the path behind an authority. A special URL always has one. -/
def readPathStart (kind : SchemeKind) (text : List Char) : UrlPath × List Char :=
  match text with
  | [] => (.segments (if kind.isSpecial then [[]] else []), [])
  | c :: rest =>
    if c == '/' || (kind.isSpecial && c == '\\') then readPath kind [] rest
    else if endsPath c then (.segments (if kind.isSpecial then [[]] else []), text)
    else readPath kind [] text

/-- Reads what follows the two slashes of a scheme. -/
def readBehindSlashes (scheme : List Char) (kind : SchemeKind) (text : List Char) :
    Except UrlError Url := do
  let (authority, rest) ← readAuthority scheme kind text
  let (path, rest) := readPathStart kind rest
  let (query, fragment) := readTail kind rest
  return { scheme, authority := some authority, path, query, fragment }

/-- The authority of a file on this machine. -/
def localAuthority : Authority where
  username := []
  password := []
  host := .domain []
  port := none

/-- Reads what follows `file:`. A drive letter is no host, and `localhost` is this machine. -/
def readFile (text : List Char) : Except UrlError Url := do
  let scheme := "file".toList
  let finish := fun (authority : Authority) (path : UrlPath) (rest : List Char) =>
    let (query, fragment) := readTail .file rest
    ({ scheme, authority := some authority, path, query, fragment } : Url)
  match text with
  | first :: second :: rest =>
    if isSlash first && isSlash second then
      let hostText := rest.takeWhile fun c => !endsAuthority .file c
      if isDriveLetter hostText then
        let (path, rest) := readPath .file [] rest
        return finish localAuthority path rest
      else
        let host ← if hostText.isEmpty then .ok (.domain []) else readHost hostText
        let host := if host == .domain "localhost".toList then .domain [] else host
        let (path, rest) := readPathStart .file (rest.drop hostText.length)
        return finish { localAuthority with host } path rest
    else
      let (path, rest) := readPathStart .file text
      return finish localAuthority path rest
  | _ =>
    let (path, rest) := readPathStart .file text
    return finish localAuthority path rest

/-- Reads what follows the colon of a scheme that is not special. -/
def readOther (scheme : List Char) (text : List Char) : Except UrlError Url :=
  match text with
  | '/' :: '/' :: rest => readBehindSlashes scheme .other rest
  | '/' :: rest =>
    let (path, rest) := readPath .other [] rest
    let (query, fragment) := readTail .other rest
    .ok { scheme, authority := none, path, query, fragment }
  | _ =>
    let path := text.takeWhile fun c => !endsPath c
    let (query, fragment) := readTail .other (text.drop path.length)
    .ok
      { scheme, authority := none, path := .rootless (encode EncodeSet.controls path), query,
        fragment }

/-- Reads a text relative to a base of a well-known scheme. -/
def readRelative (base : Url) (text : List Char) : Except UrlError Url :=
  let finish := fun (path : UrlPath) (rest : List Char) =>
    let (query, fragment) := readTail .wellKnown rest
    ({ base with path, query, fragment } : Url)
  match text with
  | [] => .ok { base with fragment := none }
  | '#' :: _ => .ok { base with fragment := (readTail .wellKnown text).2 }
  | '?' :: _ => .ok (finish base.path text)
  | c :: rest =>
    if isSlash c then
      match text with
      | '/' :: '/' :: after => readBehindSlashes base.scheme .wellKnown after
      | _ =>
        if rest.head?.any isSlash then
          readBehindSlashes base.scheme .wellKnown (text.dropWhile isSlash)
        else
          let (path, rest) := readPath .wellKnown [] rest
          .ok (finish path rest)
    else
      let above := match base.path with
        | .segments names => names.dropLast.reverse
        | .rootless _ => []
      let (path, rest) := readPath .wellKnown above text
      .ok (finish path rest)

/-- Reads a URL, with a base for texts without a scheme. A text with the scheme of the base and
less than two slashes is relative as well. -/
def read (base? : Option Url) (text : List Char) : Except UrlError Url :=
  let text := significant text
  match splitScheme? text with
  | none =>
    match base? with
    | some base => readRelative base text
    | none => .error .relativeWithoutBase
  | some (scheme, rest) =>
    match SchemeKind.of scheme with
    | .file => readFile rest
    | .other => readOther scheme rest
    | .wellKnown =>
      let slashes := (rest.takeWhile isSlash).length
      match base? with
      | some base =>
        if slashes < 2 && base.scheme == scheme then readRelative base rest
        else readBehindSlashes scheme .wellKnown (rest.drop slashes)
      | none => readBehindSlashes scheme .wellKnown (rest.drop slashes)

/-- Reads a URL that stands by itself. -/
def parse (text : String) : Except UrlError Url :=
  read none text.toList

/-- Resolves a text against a base of a well-known scheme. -/
def join (base : Url) (text : String) : Except UrlError Url :=
  read (some base) text.toList

end ClassroomClient.Url
