/-
# Editors

The files of an assignment, each in an editor of its own. Only files of the kind `edit` that
are not read-only are ever sent to the server.
-/

import ClassroomClient.Exchange.Record

namespace ClassroomClient

/-- The kinds of assignment files. -/
inductive FileKind
  | edit
  | readOnly
  | task
  | test
  deriving DecidableEq, Repr, Inhabited

namespace FileKind

/-- The word that names the kind when a file is given. -/
def word : FileKind → String
  | edit => "edit"
  | readOnly => "readonly"
  | task => "task"
  | test => "test"

/-- The label of the kind on the page. -/
def label : FileKind → String
  | edit => "Edit"
  | readOnly => "ReadOnly"
  | task => "Task"
  | test => "Test"

/-- Reads the word of a kind, in any case. -/
def ofWord? (text : String) : Option FileKind :=
  match String.ofList (text.toList.map Char.toLower) with
  | "edit" => some edit
  | "readonly" => some readOnly
  | "task" => some task
  | "test" => some test
  | _ => none

/-- The wording of the error on a word that names no kind. -/
def unknownMessage (text : String) : String :=
  s!"Unknown file type '{text}' (expected edit, readonly, task or test)"

end FileKind

/-- A file in its editor. `readOnly` belongs to the assignment, `locked` to the state of the
page. -/
structure Editor where
  filename : String
  kind : FileKind
  content : String
  readOnly : Bool
  locked : Bool
  deriving DecidableEq, Repr, Inhabited

namespace Editor

/-- A fresh editor. Files of the kind `readOnly` are read-only. -/
def fresh (filename : String) (kind : FileKind) (content : String) : Editor where
  filename := filename
  kind := kind
  content := content
  readOnly := kind == .readOnly
  locked := false

/-- Whether the file is sent with requests. A lock does not matter. -/
def isSubmittable (editor : Editor) : Bool :=
  editor.kind == .edit && !editor.readOnly

/-- The file as it is sent. -/
def sourceFile (editor : Editor) : Exchange.SourceFile where
  filename := editor.filename
  content := editor.content

end Editor

end ClassroomClient
