/-
# Pages of the web server

The client fetches the listing of the assignment files, which it takes as it is, and a part of
the rankings page. A download is a URL to ask for and what is made of the answer.
-/

import ClassroomClient.Config
import ClassroomClient.Fragment

namespace ClassroomClient

/-- What comes back for a request. -/
inductive HttpAnswer
  | failed (reason : String)
  | response (status : Nat) (body : String)
  deriving DecidableEq, Repr, Inhabited

/-- Why a page could not be fetched. -/
inductive HttpError
  | invalidUrl (error : Url.UrlError)
  | request (reason : String)
  | status (code : Nat)
  deriving DecidableEq, Repr

/-- The wording of a download error. -/
def HttpError.message : HttpError → String
  | invalidUrl error => s!"Invalid URL: {error.message}"
  | request reason => s!"HTTP request failed: {reason}"
  | status code => s!"Unexpected HTTP status {String.ofList (Text.decimal code)}"

/-- What is fetched. -/
inductive Download
  | files
  | fragment (path elementId : String)
  deriving DecidableEq, Repr, Inhabited

namespace Download

/-- The path that is asked for. -/
def path : Download → String
  | files => Route.files
  | fragment path _ => path

/-- The URL that is asked for. Only pages of web servers are: a path can lead elsewhere, and then no
request is made. -/
def url (download : Download) (base : Url) : Except HttpError Url :=
  match base.join download.path with
  | .error error => .error (.invalidUrl error)
  | .ok url =>
    if url.isWeb then .ok url else .error (.request s!"builder error for url ({url.text})")

/-- The body of an answer that says that all went well. -/
def body : HttpAnswer → Except HttpError String
  | .failed reason => .error (.request reason)
  | .response status body =>
    if 200 ≤ status && status < 300 then .ok body else .error (.status status)

/-- What is made of an answer. A page may lack the part that is asked for. -/
def read (download : Download) (answer : HttpAnswer) : Except HttpError (Option String) :=
  match body answer with
  | .error error => .error error
  | .ok body =>
    match download with
    | files => .ok (some body)
    | fragment _ elementId => .ok (extractFragment body elementId)

end Download

end ClassroomClient
