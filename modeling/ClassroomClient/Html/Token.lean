/-
# Tokens of a markup text

What the lexer finds and the builder takes: tags with their attributes, comments, document
types and single characters.
-/

namespace ClassroomClient.Html

/-- A start tag, names in small letters. An attribute name occurs once. -/
structure Tag where
  name : String
  attributes : List (String × String) := []
  selfClosing : Bool := false
  deriving DecidableEq, Repr, Inhabited

namespace Tag

/-- The value of an attribute. -/
def attribute? (tag : Tag) (name : String) : Option String :=
  tag.attributes.lookup name

/-- Whether a tag is an input that is not shown. -/
def isHiddenInput (tag : Tag) : Bool :=
  ((tag.attribute? "type").map String.toLower) == some "hidden"

/-- Whether two tags agree but for the order of their attributes. -/
def agrees (first second : Tag) : Bool :=
  first.name == second.name
    && first.attributes.length == second.attributes.length
    && first.attributes.all fun entry => second.attributes.contains entry

end Tag

/-- A document type. `isBroken` says that it ended too early. -/
structure Doctype where
  name : Option String := none
  publicId : Option String := none
  systemId : Option String := none
  isBroken : Bool := false
  deriving DecidableEq, Repr, Inhabited

/-- What the lexer hands over. A NUL of the text proper is a token of its own. -/
inductive Token
  | doctype (doctype : Doctype)
  | startTag (tag : Tag)
  | endTag (name : String)
  | comment (text : String)
  | char (c : Char)
  | null
  | finish
  deriving DecidableEq, Repr, Inhabited

/-- How far a script has got in hiding its end. -/
inductive ScriptState
  | plain
  | hidden (dashes : Nat)
  | nested (dashes : Nat)
  deriving DecidableEq, Repr, Inhabited

/-- What kind of text comes next. Raw kinds end at the end tag of the element they fill. -/
inductive Content
  | markup
  | escapable (element : String)
  | raw (element : String)
  | script (state : ScriptState)
  | plain
  deriving DecidableEq, Repr, Inhabited

/-- Blank characters of a markup text. -/
def isSpace (c : Char) : Bool :=
  c == ' ' || c == '\t' || c == '\n' || c == '\x0c' || c == '\r'

/-- Stands for a character that cannot be shown. -/
def replacement : Char := '\ufffd'

/-- A NUL inside a name or a value cannot be shown. -/
def shown (c : Char) : Char := if c == '\x00' then replacement else c

/-- Turns every line end into a single line feed. -/
def normalLines : List Char → List Char
  | '\r' :: '\n' :: rest => '\n' :: normalLines rest
  | '\r' :: rest => '\n' :: normalLines rest
  | c :: rest => c :: normalLines rest
  | [] => []

end ClassroomClient.Html
