/-
# JSON values

The values of a JSON text, and the text of a value without any blanks. The members of an
object stand in the order of their names and every name stands once; a repeated name keeps
the last of its values.
-/

import ClassroomClient.Dictionary
import ClassroomClient.Json.Number

namespace ClassroomClient.Json

/-- A JSON value. -/
inductive Value
  | null
  | boolean (value : Bool)
  | number (value : Number)
  | string (value : String)
  | array (items : List Value)
  | object (members : List (String × Value))
  deriving BEq, Repr, Inhabited

/-- The members of an object from the members of its text, in their order there. -/
def ofMembers (members : List (String × Value)) : List (String × Value) :=
  members.foldl (fun kept (name, value) => Entries.insert name value kept) []

/-- Two lowercase hexadecimal digits. -/
def twoHexDigits (n : Nat) : List Char :=
  [Nat.digitChar (n / 16 % 16), Nat.digitChar (n % 16)]

/-- One character of a string text. -/
def stringChar (c : Char) : List Char :=
  match c with
  | '"' => ['\\', '"']
  | '\\' => ['\\', '\\']
  | '\x08' => ['\\', 'b']
  | '\x0c' => ['\\', 'f']
  | '\n' => ['\\', 'n']
  | '\r' => ['\\', 'r']
  | '\t' => ['\\', 't']
  | _ => if c.toNat < 0x20 then ['\\', 'u', '0', '0'] ++ twoHexDigits c.toNat else [c]

/-- The text of a string. -/
def stringText (value : String) : List Char :=
  '"' :: (value.toList.flatMap stringChar ++ ['"'])

/-- Texts with a comma between them. -/
def commaSeparated : List (List Char) → List Char
  | [] => []
  | [text] => text
  | text :: rest => text ++ ',' :: commaSeparated rest

/-- The text of an array of which the texts of the items are given. -/
def arrayText (items : List (List Char)) : List Char :=
  '[' :: (commaSeparated items ++ [']'])

/-- The text of a member. -/
def memberText (name : String) (value : List Char) : List Char :=
  stringText name ++ ':' :: value

/-- The text of an object of which the texts of the members are given. -/
def objectText (members : List (List Char)) : List Char :=
  '\x7b' :: (commaSeparated members ++ ['\x7d'])

namespace Value

mutual

/-- The text of a value. -/
def text : Value → List Char
  | null => ['n', 'u', 'l', 'l']
  | boolean true => ['t', 'r', 'u', 'e']
  | boolean false => ['f', 'a', 'l', 's', 'e']
  | number value => value.text
  | string value => stringText value
  | array items => arrayText (itemTexts items)
  | object members => objectText (memberTexts members)

/-- The texts of the items of an array. -/
def itemTexts : List Value → List (List Char)
  | [] => []
  | item :: rest => text item :: itemTexts rest

/-- The texts of the members of an object. -/
def memberTexts : List (String × Value) → List (List Char)
  | [] => []
  | (name, value) :: rest => memberText name (text value) :: memberTexts rest

end

end Value

end ClassroomClient.Json
