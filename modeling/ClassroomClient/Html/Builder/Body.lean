/-
# Rules for the body

Most of a page is read by the rules of this module: blocks, paragraphs, lists, headings,
formatting elements, forms, and the elements that hold text of another kind.
-/

import ClassroomClient.Html.Builder.Head

namespace ClassroomClient.Html.Builder

/-- Blocks that end an open paragraph. -/
def blockTags : List String :=
  ["address", "article", "aside", "blockquote", "center", "details", "dialog", "dir", "div",
   "dl", "fieldset", "figcaption", "figure", "footer", "header", "hgroup", "main", "menu",
   "nav", "ol", "p", "search", "section", "summary", "ul"]

/-- Blocks that their own end tag closes. -/
def closingBlockTags : List String :=
  ["address", "article", "aside", "blockquote", "button", "center", "details", "dialog", "dir",
   "div", "dl", "fieldset", "figcaption", "figure", "footer", "header", "hgroup", "listing",
   "main", "menu", "nav", "ol", "pre", "search", "section", "summary", "ul"]

/-- Formatting elements other than links and `nobr`. -/
def plainFormattingTags : List String :=
  ["b", "big", "code", "em", "font", "i", "s", "small", "strike", "strong", "tt", "u"]

/-- Start tags that have no place in a body. -/
def misplacedInBody : List String :=
  ["caption", "col", "colgroup", "frame", "head", "tbody", "td", "tfoot", "th", "thead", "tr"]

/-- The first element among the open ones that a new item of a list closes. -/
def openItem? (names : List String) : List OpenElement → Option String
  | [] => none
  | element :: rest =>
    if element.isAny names then some element.name
    else if element.isSpecial && !element.isAny ["address", "div", "p"] then none
    else openItem? names rest

/-- Opens an item of a list after closing the one before it. -/
def openItem (b : Builder) (tag : Tag) (names : List String) : Builder :=
  let b := b.refuseFrameset
  let b := match openItem? names b.openElements with
    | some name => (b.closeImpliedExcept name).close name
    | none => b
  b.closeOpenParagraph.openTag tag

/-- Opens an element that is open at most once in its scope. -/
def openButton (b : Builder) (tag : Tag) : Builder :=
  let b := if b.inScope "button" then (b.closeImplied impliedEnds).close "button" else b
  (b.reconstruct.openTag tag).refuseFrameset

/-- Opens a form unless one is open. -/
def openForm (b : Builder) (tag : Tag) : Builder :=
  if b.form.isSome && !b.hasOpen "template" then b
  else
    let b := b.closeOpenParagraph.openTag tag
    if b.hasOpen "template" then b else { b with form := b.current?.map (·.id) }

/-- Closes a form. -/
def endForm (b : Builder) : Builder :=
  if b.hasOpen "template" then
    if b.inScope "form" then (b.closeImplied impliedEnds).close "form" else b
  else
    match b.form with
    | none => b
    | some id =>
      let b := { b with form := none }
      if search OpenElement.endsScope (·.id == id) b.openElements then
        (b.closeImplied impliedEnds).removeOpen id
      else b

/-- The mode that a selection is read by. -/
def selectMode : Mode → Mode
  | .inTable | .inCaption | .inTableBody | .inRow | .inCell => .inSelectInTable
  | _ => .inSelect

/-- Adds a drawing or a formula. -/
def addForeign (b : Builder) (vocabulary : Vocabulary) (tag : Tag) : Builder :=
  let element : Element :=
    { vocabulary
      name := elementSpelling vocabulary tag.name
      attributes := attributesIn vocabulary tag.attributes }
  if tag.selfClosing then (b.addElement element).2 else b.openElement element

/-- A frameset takes the place of a body in which nothing has been shown. -/
def replaceBody (b : Builder) (tag : Tag) : Builder :=
  match b.framesetAllowed, b.body? with
  | true, some body =>
    let b := { b with
      document := b.document.detach body.id
      openElements := b.openElements.getLast?.toList }
    { b.openTag tag with mode := .inFrameset }
  | _, _ => b

/-- Gives the body the attributes that it lacks. -/
def mergeBody (b : Builder) (tag : Tag) : Builder :=
  match b.body? with
  | some body =>
    if b.hasOpen "template" then b
    else
      { b.refuseFrameset with
        document := b.document.addAttributes body.id (attributesIn .html tag.attributes) }
  | none => b

/-- Adds an element without an end tag among the text. -/
def addInText (b : Builder) (tag : Tag) : Builder :=
  let added := b.reconstruct.addTag tag
  if tag.name == "input" && tag.isHiddenInput then added else added.refuseFrameset

/-- A start tag inside the body. -/
def startInBody (b : Builder) (tag : Tag) : Builder :=
  let name := tag.name
  if name == "html" then b.mergeRoot tag
  else if headTags.contains name then b.startInHead tag
  else if name == "body" then b.mergeBody tag
  else if name == "frameset" then b.replaceBody tag
  else if blockTags.contains name then b.closeOpenParagraph.openTag tag
  else if headings.contains name then
    let b := b.closeOpenParagraph
    (if b.currentIsAny headings then b.pop else b).openTag tag
  else if name == "pre" || name == "listing" then
    { (b.closeOpenParagraph.openTag tag).refuseFrameset with skipsLineFeed := true }
  else if name == "form" then b.openForm tag
  else if name == "li" then b.openItem tag ["li"]
  else if name == "dd" || name == "dt" then b.openItem tag ["dd", "dt"]
  else if name == "plaintext" then
    { b.closeOpenParagraph.openTag tag with content := .plain }
  else if name == "button" then b.openButton tag
  else if name == "a" then (b.endOpenLink.reconstruct).openFormatting tag
  else if plainFormattingTags.contains name then b.reconstruct.openFormatting tag
  else if name == "nobr" then
    let b := b.reconstruct
    (if b.inScope "nobr" then (b.endFormatting "nobr").reconstruct else b).openFormatting tag
  else if ["applet", "marquee", "object"].contains name then
    (b.reconstruct.openTag tag).addMarker.refuseFrameset
  else if name == "table" then
    let b := if b.oldLayout then b else b.closeOpenParagraph
    { (b.openTag tag).refuseFrameset with mode := .inTable }
  else if ["area", "br", "embed", "img", "keygen", "wbr", "input"].contains name then
    b.addInText tag
  else if ["param", "source", "track"].contains name then b.addTag tag
  else if name == "hr" then (b.closeOpenParagraph.addTag tag).refuseFrameset
  else if name == "image" then b.addInText { tag with name := "img" }
  else if name == "textarea" then
    { b.refuseFrameset.openRaw tag (.escapable name) with skipsLineFeed := true }
  else if name == "xmp" then
    b.closeOpenParagraph.reconstruct.refuseFrameset.openRaw tag (.raw name)
  else if name == "iframe" then b.refuseFrameset.openRaw tag (.raw name)
  else if name == "noembed" || name == "noscript" then b.openRaw tag (.raw name)
  else if name == "select" then
    let mode := selectMode b.mode
    { (b.reconstruct.openTag tag).refuseFrameset with mode }
  else if name == "optgroup" || name == "option" then
    (if b.currentIs "option" then b.pop else b).reconstruct.openTag tag
  else if name == "rb" || name == "rtc" then
    (if b.inScope "ruby" then b.closeImplied impliedEnds else b).openTag tag
  else if name == "rp" || name == "rt" then
    (if b.inScope "ruby" then b.closeImpliedExcept "rtc" else b).openTag tag
  else if name == "math" then b.addForeign .mathMl tag
  else if name == "svg" then b.addForeign .svg tag
  else if misplacedInBody.contains name then b
  else b.reconstruct.openTag tag

/-- An end tag inside the body, other than those of the body and the root. -/
def endInBody (b : Builder) (name : String) : Builder :=
  if closingBlockTags.contains name then
    if b.inScope name then (b.closeImplied impliedEnds).close name else b
  else if name == "template" then b.endTemplate
  else if name == "form" then b.endForm
  else if name == "p" then
    (if b.inButtonScope "p" then b else b.openMissing "p").closeParagraph
  else if name == "li" then
    if search OpenElement.endsListScope (·.isNamed "li") b.openElements then
      (b.closeImpliedExcept name).close name
    else b
  else if name == "dd" || name == "dt" then
    if b.inScope name then (b.closeImpliedExcept name).close name else b
  else if headings.contains name then
    if search OpenElement.endsScope (·.isAny headings) b.openElements then
      (b.closeImplied impliedEnds).popThrough (·.isAny headings)
    else b
  else if name == "a" || name == "nobr" || plainFormattingTags.contains name then
    b.endFormatting name
  else if ["applet", "marquee", "object"].contains name then
    if b.inScope name then ((b.closeImplied impliedEnds).close name).clearToMarker else b
  else if name == "br" then b.addInText { name }
  else b.endOther name

/-- Ends a template at the end of the text; the end is then read again. -/
def finishTemplate (b : Builder) : Step :=
  if b.hasOpen "template" then
    let b := (b.close "template").clearToMarker
    let b := { b with templateModes := b.templateModes.tail }
    b.again (b.modeForOpen b.openElements) .finish
  else b.done

/-- The rules inside the body. -/
def inBody (b : Builder) (token : Token) : Step :=
  match token with
  | .null | .doctype _ => b.done
  | .char c =>
    let b := b.reconstruct
    ((if isSpace c then b else b.refuseFrameset).addChar c).done
  | .comment text => (b.addComment text).done
  | .startTag tag => (b.startInBody tag).done
  | .endTag "body" => (if b.inScope "body" then { b with mode := .afterBody } else b).done
  | .endTag "html" => if b.inScope "body" then b.again .afterBody token else b.done
  | .endTag name => (b.endInBody name).done
  | .finish => if b.templateModes.isEmpty then b.done else b.finishTemplate

/-- The rules inside a template. -/
def inTemplate (b : Builder) (token : Token) : Step :=
  let turn (mode : Mode) : Step :=
    { b with templateModes := mode :: b.templateModes.tail }.again mode token
  match token with
  | .char _ | .comment _ => b.inBody token
  | .startTag tag =>
    if headTags.contains tag.name then (b.startInHead tag).done
    else if ["caption", "colgroup", "tbody", "tfoot", "thead"].contains tag.name then
      turn .inTable
    else if tag.name == "col" then turn .inColumnGroup
    else if tag.name == "tr" then turn .inTableBody
    else if tag.name == "td" || tag.name == "th" then turn .inRow
    else turn .inBody
  | .endTag "template" => b.endTemplate.done
  | .finish => b.finishTemplate
  | _ => b.done

end ClassroomClient.Html.Builder
