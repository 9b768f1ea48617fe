/-
# Records

A record is read from an object by the names of its fields, in any order, or from an array by
their positions. Unknown members are passed over; a field that stands twice is refused. A shape
lists the fields of a record with the update that a read value makes, so one reader serves all
records.
-/

import ClassroomClient.Json.Skip

namespace ClassroomClient.Json

/-- One field of a record of type `σ`. -/
structure Field (σ : Type) where
  name : String
  /-- A second name that is read like the first. -/
  alias? : Option String
  /-- Whether an object must have the field. -/
  required : Bool
  /-- Reads the value at a depth and returns what it changes in the record. -/
  read : Nat → Reader (σ → σ)

/-- How a record is read. -/
structure Shape (σ : Type) where
  /-- The name of the record in error texts. -/
  name : String
  fields : List (Field σ)
  /-- Whether an array may end before the last field. -/
  mayEndEarly : Bool
  /-- The record before any field is read. -/
  blank : σ

/-- A field of which the value is stored by `set`. -/
def Field.of {σ α : Type} (name : String) (read : Nat → Reader α) (set : α → σ → σ) : Field σ :=
  { name, alias? := none, required := false
    read := fun depth text => do
      let (value, rest) ← read depth text
      return (set value, rest) }

namespace Shape

variable {σ : Type}

/-- The field that a member name belongs to. -/
def field? (shape : Shape σ) (name : String) : Option (Field σ) :=
  shape.fields.find? fun field => field.name == name || field.alias? == some name

/-- The wording of the record as something expected. -/
def expected (shape : Shape σ) : String := s!"struct {shape.name}"

/-- The text behind the closing brace, if one is next. -/
def afterBrace (text : List Char) : List Char :=
  match skipSpace text with
  | '\x7d' :: rest => rest
  | other => other

/-- Checks that all required fields were seen. -/
def checkRequired (shape : Shape σ) (seen : List String) (text : List Char) :
    Except Fault Unit :=
  match shape.fields.find? fun field => field.required && !seen.contains field.name with
  | some field => .error (.before (.missingField field.name) (afterBrace text))
  | none => .ok ()

/-- Reads the members of an object into a record, up to the closing brace. `seen` holds the
names of the fields that were read. The fuel bounds the number of members. -/
def readMembersInto (shape : Shape σ) (depth : Nat) :
    Nat → Bool → List String → σ → Reader σ
  | 0, _, _, _, text => .error (.before .endInObject text)
  | fuel + 1, first, seen, record, text => do
    let (more, text) ← nextMember first text
    if more then
      let (name, text) ← readName text
      match shape.field? name with
      | none => do
        let text ← skipValue (← readColon text)
        readMembersInto shape depth fuel false seen record text
      | some field =>
        if seen.contains field.name then
          .error (.before (.duplicateField field.name) (afterBrace text))
        else do
          let text ← readColon text
          let (update, text) ← field.read depth text
          readMembersInto shape depth fuel false (field.name :: seen) (update record) text
    else do
      shape.checkRequired seen text
      return (record, text)

/-- Reads the items of an array into the fields that are left. `index` counts the fields
before them. -/
def readItemsInto (shape : Shape σ) (depth : Nat) :
    List (Field σ) → Nat → σ → Reader σ
  | [], _, record, text => .ok (record, text)
  | field :: fields, index, record, text => do
    let (more, text) ← nextItem (index == 0) text
    if more then
      let (update, text) ← field.read depth text
      readItemsInto shape depth fields (index + 1) (update record) text
    else if shape.mayEndEarly then
      return (record, text)
    else
      let size := String.ofList (Text.decimal shape.fields.length)
      .error (.before (.wrongLength index s!"{shape.expected} with {size} elements") text.tail)

/-- Closes an array of which all fields are read. -/
def closeArray (text : List Char) : Except Fault (List Char) :=
  match skipSpace text with
  | [] => .error (.within .endInArray [])
  | ']' :: rest => .ok rest
  | ',' :: rest =>
    match skipSpace rest with
    | ']' :: after => .error (.within .trailingComma (']' :: after))
    | other => .error (.within .trailingCharacters other)
  | other => .error (.within .trailingCharacters other)

/-- Reads a record from an object or an array. -/
def read (shape : Shape σ) (depth : Nat) : Reader σ := fun text =>
  match skipSpace text with
  | [] => .error (.within .endInValue [])
  | c :: rest =>
    if c == '[' then
      match depth with
      | depth + 2 => do
        let (record, rest) ← shape.readItemsInto (depth + 1) shape.fields 0 shape.blank rest
        return (record, ← closeArray rest)
      | _ => .error (.within .tooDeep (c :: rest))
    else if c == '\x7b' then
      match depth with
      | depth + 2 => do
        let (record, rest) ←
          shape.readMembersInto (depth + 1) (rest.length + 1) true [] shape.blank rest
        return (record, rest.tail)
      | _ => .error (.within .tooDeep (c :: rest))
    else
      .error (wrongType shape.expected (c :: rest))

/-- Reads a text that holds one record. -/
def decode (shape : Shape σ) (text : String) : Except Fault σ :=
  readWhole (shape.read maxDepth) text

end Shape

end ClassroomClient.Json
