/-
# State of the tree builder

The builder keeps the document so far, the elements that are open with the innermost one
first, and the formatting elements that misnested tags may open again. This module holds the
state, the places where new nodes go, and the questions that the rules ask about the open
elements.
-/

import ClassroomClient.Html.Foreign
import ClassroomClient.Html.Layout

namespace ClassroomClient.Html

/-- Which rules the next token is read by. -/
inductive Mode
  | initial
  | beforeHtml
  | beforeHead
  | inHead
  | afterHead
  | inBody
  | rawText
  | inTable
  | inTableText
  | inCaption
  | inColumnGroup
  | inTableBody
  | inRow
  | inCell
  | inSelect
  | inSelectInTable
  | inTemplate
  | afterBody
  | inFrameset
  | afterFrameset
  | afterAfterBody
  | afterAfterFrameset
  deriving DecidableEq, Repr, Inhabited

/-- An element that is open. -/
structure OpenElement where
  id : NodeId
  vocabulary : Vocabulary
  name : String
  deriving DecidableEq, Repr, Inhabited

namespace OpenElement

/-- Whether an element has one of the names and belongs to the main vocabulary. -/
def isAny (element : OpenElement) (names : List String) : Bool :=
  element.vocabulary == .html && names.contains element.name

/-- Whether an element has the name and belongs to the main vocabulary. -/
def isNamed (element : OpenElement) (name : String) : Bool :=
  element.vocabulary == .html && element.name == name

/-- Whether an element of a formula holds plain text. -/
def holdsFormulaText (element : OpenElement) : Bool :=
  element.vocabulary == .mathMl && ["mi", "mo", "mn", "ms", "mtext"].contains element.name

/-- Whether an element of a drawing holds markup. -/
def holdsDrawingMarkup (element : OpenElement) : Bool :=
  element.vocabulary == .svg && ["foreignObject", "desc", "title"].contains element.name

/-- Elements that end the search for an open element. -/
def endsScope (element : OpenElement) : Bool :=
  element.isAny
      ["applet", "caption", "html", "table", "td", "th", "marquee", "object", "template"]
    || element.holdsFormulaText || element.holdsDrawingMarkup

/-- Elements that end the search for an open list item. -/
def endsListScope (element : OpenElement) : Bool :=
  element.endsScope || element.isAny ["ol", "ul"]

/-- Elements that end the search for an open paragraph. -/
def endsButtonScope (element : OpenElement) : Bool :=
  element.endsScope || element.isNamed "button"

/-- Elements that end the search for a part of a table. -/
def endsTableScope (element : OpenElement) : Bool :=
  element.isAny ["html", "table", "template"]

/-- Elements that end the search for an open selection. -/
def endsSelectScope (element : OpenElement) : Bool :=
  !element.isAny ["optgroup", "option"]

/-- Elements that no misplaced end tag closes. -/
def isSpecial (element : OpenElement) : Bool :=
  element.isAny
    ["address", "applet", "area", "article", "aside", "base", "basefont", "bgsound",
     "blockquote", "body", "br", "button", "caption", "center", "col", "colgroup", "dd",
     "details", "dir", "div", "dl", "dt", "embed", "fieldset", "figcaption", "figure", "footer",
     "form", "frame", "frameset", "h1", "h2", "h3", "h4", "h5", "h6", "head", "header",
     "hgroup", "hr", "html", "iframe", "img", "input", "isindex", "li", "link", "listing",
     "main", "marquee", "menu", "meta", "nav", "noembed", "noframes", "noscript", "object",
     "ol", "p", "param", "plaintext", "pre", "script", "section", "select", "source", "style",
     "summary", "table", "tbody", "td", "template", "textarea", "tfoot", "th", "thead", "title",
     "tr", "track", "ul", "wbr", "xmp"]

/-- Elements inside a table that text must not stand in. -/
def refusesText (element : OpenElement) : Bool :=
  element.isAny ["table", "tbody", "tfoot", "thead", "tr"]

end OpenElement

/-- Elements whose end may be left out. -/
def impliedEnds : List String :=
  ["dd", "dt", "li", "optgroup", "option", "p", "rb", "rp", "rt", "rtc"]

/-- Elements whose end may be left out inside a template. -/
def thoroughImpliedEnds : List String :=
  impliedEnds ++ ["caption", "colgroup", "tbody", "td", "tfoot", "th", "thead", "tr"]

/-- Headings. -/
def headings : List String := ["h1", "h2", "h3", "h4", "h5", "h6"]

/-- An entry of the formatting elements. A marker keeps what is outside of a cell or an object
from what is inside. -/
inductive FormatEntry
  | marker
  | element (id : NodeId) (tag : Tag)
  deriving DecidableEq, Repr, Inhabited

/-- Whether an entry stands for a node. -/
def FormatEntry.isFor (id : NodeId) : FormatEntry → Bool
  | .element other _ => other == id
  | .marker => false

/-- The state of the builder. Open elements and formatting entries have the latest one
first. -/
structure Builder where
  document : Document := Document.empty
  mode : Mode := .initial
  returnMode : Mode := .inBody
  templateModes : List Mode := []
  openElements : List OpenElement := []
  formatting : List FormatEntry := []
  head : Option OpenElement := none
  form : Option NodeId := none
  framesetAllowed : Bool := true
  besideTables : Bool := false
  skipsLineFeed : Bool := false
  oldLayout : Bool := false
  tableText : List Char := []
  content : Content := .markup
  deriving Inhabited

/-- What a rule makes of a token: the new state, and the token if it is to be read again by
the rules of the new mode. -/
structure Step where
  builder : Builder
  again : Option Token := none
  deriving Inhabited

namespace Builder

/-- The token has been dealt with. -/
def done (b : Builder) : Step := { builder := b }

/-- The token is read again by the rules of another mode. -/
def again (b : Builder) (mode : Mode) (token : Token) : Step :=
  { builder := { b with mode }, again := some token }

/-! ## Questions about the open elements -/

/-- The innermost open element. -/
def current? (b : Builder) : Option OpenElement := b.openElements.head?

/-- Whether the innermost open element has the name. -/
def currentIs (b : Builder) (name : String) : Bool :=
  (b.current?.map (·.isNamed name)).getD false

/-- Whether the innermost open element has one of the names. -/
def currentIsAny (b : Builder) (names : List String) : Bool :=
  (b.current?.map (·.isAny names)).getD false

/-- Whether an element of the name is open at all. -/
def hasOpen (b : Builder) (name : String) : Bool := b.openElements.any (·.isNamed name)

/-- Whether an open element is found before one that ends the search. -/
def search (ends found : OpenElement → Bool) : List OpenElement → Bool
  | [] => false
  | element :: rest => found element || (!ends element && search ends found rest)

/-- Whether an element of the name is open within the ordinary scope. -/
def inScope (b : Builder) (name : String) : Bool :=
  search OpenElement.endsScope (·.isNamed name) b.openElements

/-- Whether an element of the name is open within the scope of a paragraph. -/
def inButtonScope (b : Builder) (name : String) : Bool :=
  search OpenElement.endsButtonScope (·.isNamed name) b.openElements

/-- Whether an element of one of the names is open within the scope of a table. -/
def inTableScope (b : Builder) (names : List String) : Bool :=
  search OpenElement.endsTableScope (·.isAny names) b.openElements

/-- Whether a selection is open within its scope. -/
def inSelectScope (b : Builder) : Bool :=
  search OpenElement.endsSelectScope (·.isNamed "select") b.openElements

/-- The body, if it is the second element. -/
def body? (b : Builder) : Option OpenElement :=
  match b.openElements.reverse with
  | _ :: second :: _ => if second.isNamed "body" then some second else none
  | _ => none

/-- Whether the innermost open element belongs to a drawing or a formula. -/
def isInForeign (b : Builder) : Bool :=
  (b.current?.map fun element => element.vocabulary != .html).getD false

/-! ## Closing elements -/

/-- Closes the innermost element. -/
def pop (b : Builder) : Builder := { b with openElements := b.openElements.tail }

/-- Closes elements up to and with the first one that is found. -/
def popThrough (b : Builder) (found : OpenElement → Bool) : Builder :=
  { b with openElements := (b.openElements.dropWhile (!found ·)).tail }

/-- Closes elements up to and with the first one of the name. -/
def close (b : Builder) (name : String) : Builder := b.popThrough (·.isNamed name)

/-- Closes elements until one of the names is the innermost one. -/
def popTo (b : Builder) (names : List String) : Builder :=
  { b with openElements := b.openElements.dropWhile fun element => !element.isAny names }

/-- Closes the elements whose end is left out. -/
def closeImplied (b : Builder) (names : List String) : Builder :=
  { b with openElements := b.openElements.dropWhile (·.isAny names) }

/-- Closes the elements whose end is left out, except those of the name. -/
def closeImpliedExcept (b : Builder) (name : String) : Builder :=
  b.closeImplied (impliedEnds.filter (· != name))

/-- Closes the open paragraph. -/
def closeParagraph (b : Builder) : Builder := (b.closeImpliedExcept "p").close "p"

/-- Closes a paragraph that is open within its scope. -/
def closeOpenParagraph (b : Builder) : Builder :=
  if b.inButtonScope "p" then b.closeParagraph else b

/-- Takes an element out of the open ones. -/
def removeOpen (b : Builder) (id : NodeId) : Builder :=
  { b with openElements := b.openElements.filter (·.id != id) }

/-- Parts of a table body. -/
def tableBodyEnds : List String := ["tbody", "tfoot", "thead", "template", "html"]

/-- Parts of a table row. -/
def tableRowEnds : List String := ["tr", "template", "html"]

/-- Parts of a table. -/
def tableEnds : List String := ["table", "template", "html"]

/-! ## Where new nodes go -/

/-- A place for a new node: at the end of a node, or before a table where that has a parent
and else at the end of a node. -/
inductive Place
  | last (parent : NodeId)
  | besideTable (table : NodeId) (otherwise : NodeId)
  deriving DecidableEq, Repr

/-- The place beside the innermost table, or inside the innermost template. -/
def placeBeside (document : Document) : List OpenElement → Place
  | [] => .last Document.root
  | [outermost] => .last outermost.id
  | element :: outer :: rest =>
    if element.isNamed "template" then .last (document.contents element.id)
    else if element.isNamed "table" then .besideTable element.id outer.id
    else placeBeside document (outer :: rest)

/-- The place for a node that is to stand inside an element. -/
def placeIn (b : Builder) (target : OpenElement) : Place :=
  if b.besideTables && target.refusesText then placeBeside b.document b.openElements
  else if target.isNamed "template" then .last (b.document.contents target.id)
  else .last target.id

/-- The place for a node at the point where the builder stands. -/
def place (b : Builder) : Place :=
  match b.current? with
  | some element => b.placeIn element
  | none => .last Document.root

/-- Puts a node into its place. -/
def put (document : Document) (place : Place) (id : NodeId) : Document :=
  match place with
  | .last parent => document.append parent id
  | .besideTable table otherwise =>
    if (document.parent? table).isSome then document.insertBefore table id
    else document.append otherwise id

/-- Adds a character where the builder stands. -/
def addChar (b : Builder) (c : Char) : Builder :=
  let document :=
    match b.place with
    | .last parent => b.document.appendChar parent c
    | .besideTable table otherwise =>
      if (b.document.parent? table).isSome then b.document.insertCharBefore table c
      else b.document.appendChar otherwise c
  { b with document }

/-- Adds a comment where the builder stands. -/
def addComment (b : Builder) (text : String) : Builder :=
  let (id, document) := b.document.create (.comment text)
  { b with document := put document b.place id }

/-- Adds a comment at the end of a node. -/
def addCommentTo (b : Builder) (parent : NodeId) (text : String) : Builder :=
  let (id, document) := b.document.create (.comment text)
  { b with document := document.append parent id }

/-- Adds an element where the builder stands, without opening it. -/
def addElement (b : Builder) (element : Element) : OpenElement × Builder :=
  let (id, document) := b.document.createElement element
  ({ id, vocabulary := element.vocabulary, name := element.name },
    { b with document := put document b.place id })

/-- Adds an element where the builder stands and opens it. -/
def openElement (b : Builder) (element : Element) : Builder :=
  let (added, b) := b.addElement element
  { b with openElements := added :: b.openElements }

/-- The element of a tag. -/
def elementOf (tag : Tag) : Element :=
  { name := tag.name, attributes := attributesIn .html tag.attributes }

/-- Adds the element of a tag and opens it. -/
def openTag (b : Builder) (tag : Tag) : Builder := b.openElement (elementOf tag)

/-- Adds the element of a tag that has no end tag. -/
def addTag (b : Builder) (tag : Tag) : Builder := (b.addElement (elementOf tag)).2

/-- Adds an element that the text leaves out and opens it. -/
def openMissing (b : Builder) (name : String) : Builder := b.openElement { name }

/-- Opens the outermost element. -/
def openRoot (b : Builder) (attributes : List (String × String)) : Builder :=
  let (id, document) := b.document.createElement
    { name := "html", attributes := attributesIn .html attributes }
  { b with
    document := document.append Document.root id
    openElements := { id, vocabulary := .html, name := "html" } :: b.openElements }

/-- Opens an element that holds text of another kind. -/
def openRaw (b : Builder) (tag : Tag) (content : Content) : Builder :=
  let b := b.openTag tag
  { b with returnMode := b.mode, mode := .rawText, content }

/-- Gives the outermost element the attributes that it lacks, unless a template is open. -/
def mergeRoot (b : Builder) (tag : Tag) : Builder :=
  match b.openElements.getLast? with
  | some outermost =>
    if b.hasOpen "template" then b
    else
      { b with
        document := b.document.addAttributes outermost.id (attributesIn .html tag.attributes) }
  | none => b

/-- No frameset may follow. -/
def refuseFrameset (b : Builder) : Builder := { b with framesetAllowed := false }

/-! ## Choosing the mode -/

/-- The mode that an open element asks for. `outer` holds the elements around it. -/
def modeFor? (b : Builder) (element : OpenElement) (outer : List OpenElement) : Option Mode :=
  if element.vocabulary != .html then none
  else
    match element.name with
    | "select" =>
      match outer.find? (·.isAny ["template", "table"]) with
      | some found => some (if found.name == "table" then .inSelectInTable else .inSelect)
      | none => some .inSelect
    | "td" | "th" => if outer.isEmpty then none else some .inCell
    | "tr" => some .inRow
    | "tbody" | "thead" | "tfoot" => some .inTableBody
    | "caption" => some .inCaption
    | "colgroup" => some .inColumnGroup
    | "table" => some .inTable
    | "template" => some (b.templateModes.head?.getD .inBody)
    | "head" => if outer.isEmpty then none else some .inHead
    | "body" => some .inBody
    | "frameset" => some .inFrameset
    | "html" => some (if b.head.isNone then .beforeHead else .afterHead)
    | _ => none

/-- The mode that the innermost of the open elements asks for. -/
def modeForOpen (b : Builder) : List OpenElement → Mode
  | [] => .inBody
  | element :: outer => (b.modeFor? element outer).getD (b.modeForOpen outer)

/-- Chooses the mode anew. -/
def chooseMode (b : Builder) : Builder := { b with mode := b.modeForOpen b.openElements }

end Builder

end ClassroomClient.Html
