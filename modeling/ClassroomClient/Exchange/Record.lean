/-
# Records on the wire

What the client sends and what the server pushes, with the JSON form of each. Pushed records
may leave out any field; a field that is left out is empty. Requests and source files are
strict, they need all of their fields but the selected tests.
-/

import ClassroomClient.Json.Record

namespace ClassroomClient.Exchange

open Json

/-- A file that is sent with a request. -/
structure SourceFile where
  filename : String
  content : String
  deriving DecidableEq, Repr, Inhabited

/-- A compile, test or submit request. Only test requests carry test names. -/
structure Request where
  team : String
  source : List SourceFile
  tests : Option (List String)
  deriving DecidableEq, Repr, Inhabited

/-- Feedback on a test, on a submission, or for everyone. The time is kept as the server wrote
it, whatever kind of value that is. -/
structure Feedback where
  team : String
  text : String
  time : Json.Value
  test : Option String
  success : Bool
  submit : Bool
  deriving BEq, Repr, Inhabited

/-- The result of a compilation. -/
structure CompileResult where
  text : String
  success : Bool
  deriving DecidableEq, Repr, Inhabited

/-- What the server tells when it stops a round. -/
structure StopNotice where
  taskName : Option String
  uuid : Option String
  value : Option String
  deriving DecidableEq, Repr, Inhabited

/-- The JSON text of an optional string. -/
def optionalText : Option String → List Char
  | none => Value.null.text
  | some value => stringText value

/-- The JSON text of a truth value. -/
def flagText (value : Bool) : List Char :=
  (Value.boolean value).text

namespace SourceFile

/-- How a source file is read. -/
def shape : Shape SourceFile where
  name := "SourceFile"
  fields :=
    [{ Field.of "filename" (fun _ => readText) (fun value file => { file with filename := value })
       with required := true },
     { Field.of "content" (fun _ => readText) (fun value file => { file with content := value })
       with required := true }]
  mayEndEarly := false
  blank := { filename := "", content := "" }

/-- The JSON text of a source file. -/
def text (file : SourceFile) : List Char :=
  objectText
    [memberText "filename" (stringText file.filename),
     memberText "content" (stringText file.content)]

end SourceFile

namespace Request

/-- How a request is read. -/
def shape : Shape Request where
  name := "SubmissionRequest"
  fields :=
    [{ Field.of "team" (fun _ => readText) (fun value request => { request with team := value })
       with required := true },
     { Field.of "source" (fun depth => readList depth SourceFile.shape.read)
         (fun value request => { request with source := value })
       with required := true },
     Field.of "tests" (fun depth => readOptional (readList depth fun _ => readText))
       (fun value request => { request with tests := value })]
  mayEndEarly := false
  blank := { team := "", source := [], tests := none }

/-- The JSON text of a request. Without test names there is no such member. -/
def text (request : Request) : List Char :=
  objectText <|
    [memberText "team" (stringText request.team),
     memberText "source" (arrayText (request.source.map SourceFile.text))] ++
    match request.tests with
    | none => []
    | some names => [memberText "tests" (arrayText (names.map stringText))]

end Request

namespace Feedback

/-- Feedback without content. -/
def empty : Feedback where
  team := ""
  text := ""
  time := .null
  test := none
  success := false
  submit := false

/-- How feedback is read. -/
def shape : Shape Feedback where
  name := "FeedbackNotification"
  fields :=
    [Field.of "team" (fun _ => readText) (fun value feedback => { feedback with team := value }),
     { Field.of "text" (fun _ => readText) (fun value feedback => { feedback with text := value })
       with alias? := some "message" },
     Field.of "time" readValue (fun value feedback => { feedback with time := value }),
     Field.of "test" (fun _ => readOptional readText)
       (fun value feedback => { feedback with test := value }),
     Field.of "success" (fun _ => readFlag)
       (fun value feedback => { feedback with success := value }),
     Field.of "submit" (fun _ => readFlag)
       (fun value feedback => { feedback with submit := value })]
  mayEndEarly := true
  blank := empty

/-- The JSON text of feedback. -/
def json (feedback : Feedback) : List Char :=
  objectText
    [memberText "team" (stringText feedback.team),
     memberText "text" (stringText feedback.text),
     memberText "time" feedback.time.text,
     memberText "test" (optionalText feedback.test),
     memberText "success" (flagText feedback.success),
     memberText "submit" (flagText feedback.submit)]

/-- The time as it is shown: a string as it stands, nothing for no time, and else its JSON
text. -/
def timeText (feedback : Feedback) : String :=
  match feedback.time with
  | .null => ""
  | .string text => text
  | other => String.ofList other.text

end Feedback

namespace CompileResult

/-- How a compile result is read. -/
def shape : Shape CompileResult where
  name := "CompileFeedback"
  fields :=
    [{ Field.of "text" (fun _ => readText) (fun value result => { result with text := value })
       with alias? := some "message" },
     Field.of "success" (fun _ => readFlag) (fun value result => { result with success := value })]
  mayEndEarly := true
  blank := { text := "", success := false }

/-- The JSON text of a compile result. -/
def json (result : CompileResult) : List Char :=
  objectText
    [memberText "text" (stringText result.text),
     memberText "success" (flagText result.success)]

end CompileResult

namespace StopNotice

/-- A notice that tells nothing. -/
def empty : StopNotice where
  taskName := none
  uuid := none
  value := none

/-- How a stop notice is read. -/
def shape : Shape StopNotice where
  name := "StopMessage"
  fields :=
    [Field.of "taskName" (fun _ => readOptional readText)
       (fun value notice => { notice with taskName := value }),
     Field.of "uuid" (fun _ => readOptional readText)
       (fun value notice => { notice with uuid := value }),
     Field.of "value" (fun _ => readOptional readText)
       (fun value notice => { notice with value := value })]
  mayEndEarly := true
  blank := empty

/-- The JSON text of a stop notice. -/
def json (notice : StopNotice) : List Char :=
  objectText
    [memberText "taskName" (optionalText notice.taskName),
     memberText "uuid" (optionalText notice.uuid),
     memberText "value" (optionalText notice.value)]

end StopNotice

end ClassroomClient.Exchange
