/-
# Documents

A document is a tree of nodes kept in the order of their creation. Nodes move within the tree
while it is built; a node that has been taken out stays in the list without a parent.
-/

namespace ClassroomClient.Html

/-- The vocabulary that an element belongs to. -/
inductive Vocabulary
  | html
  | mathMl
  | svg
  deriving DecidableEq, Repr, Inhabited

/-- The group that the name of an attribute belongs to, in the order of their keeping. -/
inductive AttributeGroup
  | plain
  | declaration
  | link
  | xml
  | namedDeclaration
  deriving DecidableEq, Repr, Inhabited

namespace AttributeGroup

/-- The place of a group among the groups. -/
def rank : AttributeGroup → Nat
  | plain => 0
  | declaration => 1
  | link => 2
  | xml => 3
  | namedDeclaration => 4

/-- What stands before the name of an attribute of the group. -/
def mark : AttributeGroup → String
  | plain | declaration => ""
  | link => "xlink:"
  | xml => "xml:"
  | namedDeclaration => "xmlns:"

end AttributeGroup

/-- An attribute of an element. -/
structure Attribute where
  group : AttributeGroup := .plain
  name : String
  value : String
  deriving DecidableEq, Repr, Inhabited

namespace Attribute

/-- Whether an attribute is kept before another one. -/
def precedes (first second : Attribute) : Bool :=
  first.group.rank < second.group.rank
    || (first.group == second.group && first.name < second.name)

/-- Whether two attributes have one name. -/
def sameName (first second : Attribute) : Bool :=
  first.group == second.group && first.name == second.name

/-- Puts an attribute in its place unless one of its name is there. -/
def insert (new : Attribute) : List Attribute → List Attribute
  | [] => [new]
  | other :: rest =>
    if new.sameName other then other :: rest
    else if new.precedes other then new :: other :: rest
    else other :: new.insert rest

/-- Adds attributes, each in its place, unless one of the name is there. -/
def merge (kept new : List Attribute) : List Attribute :=
  new.foldl (fun kept next => next.insert kept) kept

/-- The attributes in the order of their keeping. -/
def ordered (attributes : List Attribute) : List Attribute := merge [] attributes

end Attribute

/-- An element with its attributes in the order of their keeping. -/
structure Element where
  vocabulary : Vocabulary := .html
  name : String
  attributes : List Attribute := []
  deriving DecidableEq, Repr, Inhabited

/-- The value of an attribute outside of the special groups. -/
def Element.attribute? (element : Element) (name : String) : Option String :=
  (element.attributes.find? fun kept => kept.group == .plain && kept.name == name).map (·.value)

/-- What a node is. A fragment holds what stands inside a template. -/
inductive NodeContent
  | document
  | fragment
  | doctype (name : String)
  | comment (text : String)
  | text (text : String)
  | element (element : Element)
  deriving DecidableEq, Repr, Inhabited

/-- The number of a node in the order of creation. -/
abbrev NodeId := Nat

/-- A node with its place in the tree. -/
structure Node where
  content : NodeContent
  parent : Option NodeId := none
  children : List NodeId := []
  deriving DecidableEq, Repr, Inhabited

/-- The nodes in the order of their creation; the first one is the root. -/
structure Document where
  nodes : Array Node
  deriving Repr, Inhabited

namespace Document

/-- A document with nothing in it. -/
def empty : Document := { nodes := #[{ content := .document }] }

/-- The number of the root. -/
def root : NodeId := 0

/-- What the node with a number is. -/
def content? (document : Document) (id : NodeId) : Option NodeContent :=
  (document.nodes[id]?).map fun node => node.content

/-- The element with a number. -/
def element? (document : Document) (id : NodeId) : Option Element :=
  match document.content? id with
  | some (.element element) => some element
  | _ => none

/-- The text with a number. -/
def text? (document : Document) (id : NodeId) : Option String :=
  match document.content? id with
  | some (.text text) => some text
  | _ => none

/-- The parent of a node. -/
def parent? (document : Document) (id : NodeId) : Option NodeId :=
  (document.nodes[id]?).bind (·.parent)

/-- The children of a node. -/
def children (document : Document) (id : NodeId) : List NodeId :=
  ((document.nodes[id]?).map (·.children)).getD []

/-- The elements among the children of a node. -/
def childElements (document : Document) (id : NodeId) : List NodeId :=
  (document.children id).filter fun child => (document.element? child).isSome

/-- Changes a node. -/
def modify (document : Document) (id : NodeId) (change : Node → Node) : Document :=
  { document with nodes := document.nodes.modify id change }

/-- Creates a node outside of the tree. -/
def create (document : Document) (content : NodeContent) : NodeId × Document :=
  (document.nodes.size, { document with nodes := document.nodes.push { content } })

/-- Creates an element outside of the tree. A template holds a fragment from the start. -/
def createElement (document : Document) (element : Element) : NodeId × Document :=
  let (id, document) := document.create (.element element)
  if element.vocabulary == .html && element.name == "template" then
    let (contents, document) := document.create .fragment
    (id, (document.modify contents fun node => { node with parent := some id }).modify id
      fun node => { node with children := [contents] })
  else
    (id, document)

/-- Takes a node out of the tree. -/
def detach (document : Document) (id : NodeId) : Document :=
  match document.parent? id with
  | none => document
  | some parent =>
    (document.modify id fun node => { node with parent := none }).modify parent fun node =>
      { node with children := node.children.filter (· != id) }

/-- Makes a node the last child of another one. -/
def append (document : Document) (parent child : NodeId) : Document :=
  ((document.detach child).modify child fun node => { node with parent := some parent }).modify
    parent fun node => { node with children := node.children ++ [child] }

/-- Puts a number before another one in a list. -/
def insertInList (place new : NodeId) : List NodeId → List NodeId
  | [] => []
  | id :: rest => if id == place then new :: id :: rest else id :: insertInList place new rest

/-- Puts a node before another one. It stays outside when the other one has no parent. -/
def insertBefore (document : Document) (sibling new : NodeId) : Document :=
  let document := document.detach new
  match document.parent? sibling with
  | none => document
  | some parent =>
    (document.modify new fun node => { node with parent := some parent }).modify parent
      fun node => { node with children := insertInList sibling new node.children }

/-- Lengthens a text. -/
def lengthen (document : Document) (id : NodeId) (c : Char) : Document :=
  document.modify id fun node =>
    match node.content with
    | .text text => { node with content := .text (text.push c) }
    | _ => node

/-- Adds a character at the end of a node, to the text that stands there if there is one. -/
def appendChar (document : Document) (parent : NodeId) (c : Char) : Document :=
  match (document.children parent).getLast? with
  | some last =>
    if (document.text? last).isSome then document.lengthen last c
    else
      let (id, document) := document.create (.text (String.singleton c))
      document.append parent id
  | none =>
    let (id, document) := document.create (.text (String.singleton c))
    document.append parent id

/-- The node before another one among the children of their parent. -/
def previous? (document : Document) (id : NodeId) : Option NodeId :=
  match document.parent? id with
  | none => none
  | some parent => ((document.children parent).takeWhile (· != id)).getLast?

/-- Adds a character before a node, to the text that stands there if there is one. -/
def insertCharBefore (document : Document) (sibling : NodeId) (c : Char) : Document :=
  let fresh (document : Document) : Document :=
    let (id, document) := document.create (.text (String.singleton c))
    document.insertBefore sibling id
  match document.previous? sibling with
  | some before =>
    if (document.text? before).isSome then document.lengthen before c else fresh document
  | none => fresh document

/-- Moves the children of a node to the end of another one. -/
def moveChildren (document : Document) (source target : NodeId) : Document :=
  (document.children source).foldl (fun document child => document.append target child) document

/-- Gives an element the attributes that it lacks. -/
def addAttributes (document : Document) (id : NodeId) (attributes : List Attribute) :
    Document :=
  document.modify id fun node =>
    match node.content with
    | .element element =>
      let attributes := Attribute.merge element.attributes attributes
      { node with content := .element { element with attributes } }
    | _ => node

/-- The node that holds what stands inside a template. -/
def contents (document : Document) (template : NodeId) : NodeId :=
  (document.children template).head?.getD template

end Document

end ClassroomClient.Html
