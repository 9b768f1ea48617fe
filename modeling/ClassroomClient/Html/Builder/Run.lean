/-
# Building a document

Sends each token to the rules of the mode, or to the rules for drawings and formulas, and
again as long as the rules ask for it. `Document.ofText` is the document of a text.
-/

import ClassroomClient.Html.Builder.Table
import ClassroomClient.Html.Lexer

namespace ClassroomClient.Html

namespace Builder

/-- The rules before the document type. -/
def inInitial (b : Builder) (token : Token) : Step :=
  match token with
  | .char c => if isSpace c then b.done else { b with oldLayout := true }.again .beforeHtml token
  | .comment text => (b.addCommentTo Document.root text).done
  | _ => { b with oldLayout := true }.again .beforeHtml token

/-- The rules before the outermost element. -/
def beforeHtml (b : Builder) (token : Token) : Step :=
  let leave : Step := (b.openRoot []).again .beforeHead token
  match token with
  | .char c => if isSpace c then b.done else leave
  | .comment text => (b.addCommentTo Document.root text).done
  | .startTag tag =>
    if tag.name == "html" then { b.openRoot tag.attributes with mode := .beforeHead }.done
    else leave
  | .endTag name => if ["head", "body", "html", "br"].contains name then leave else b.done
  | _ => leave

/-- Opens the head. -/
def openHead (b : Builder) (tag : Tag) : Builder :=
  let b := b.openTag tag
  { b with head := b.current?, mode := .inHead }

/-- The rules before the head. -/
def beforeHead (b : Builder) (token : Token) : Step :=
  let leave : Step := (b.openHead { name := "head" }).again .inHead token
  match token with
  | .char c => if isSpace c then b.done else leave
  | .comment text => (b.addComment text).done
  | .startTag tag =>
    if tag.name == "html" then (b.mergeRoot tag).done
    else if tag.name == "head" then (b.openHead tag).done
    else leave
  | .endTag name => if ["head", "body", "html", "br"].contains name then leave else b.done
  | _ => leave

/-- The rules inside an element of raw text. -/
def inRawText (b : Builder) (token : Token) : Step :=
  match token with
  | .char c => (b.addChar c).done
  | .endTag _ => { b.pop with mode := b.returnMode }.done
  | .finish => b.pop.again b.returnMode token
  | _ => b.done

/-- The rules after the body. -/
def afterBody (b : Builder) (token : Token) : Step :=
  match token with
  | .char c => if isSpace c then b.inBody token else b.again .inBody token
  | .comment text =>
    (match b.openElements.getLast? with
      | some outermost => b.addCommentTo outermost.id text
      | none => b).done
  | .startTag tag => if tag.name == "html" then (b.mergeRoot tag).done else b.again .inBody token
  | .endTag "html" => { b with mode := .afterAfterBody }.done
  | .finish => b.done
  | _ => b.again .inBody token

/-- The rules after the outermost element. -/
def afterAfterBody (b : Builder) (token : Token) : Step :=
  match token with
  | .char c => if isSpace c then b.inBody token else b.again .inBody token
  | .comment text => (b.addCommentTo Document.root text).done
  | .startTag tag => if tag.name == "html" then (b.mergeRoot tag).done else b.again .inBody token
  | .finish => b.done
  | _ => b.again .inBody token

/-- The rules inside a frameset. -/
def inFrameset (b : Builder) (token : Token) : Step :=
  match token with
  | .char c => (if isSpace c then b.addChar c else b).done
  | .comment text => (b.addComment text).done
  | .startTag tag =>
    match tag.name with
    | "html" => (b.mergeRoot tag).done
    | "frameset" => (b.openTag tag).done
    | "frame" => (b.addTag tag).done
    | "noframes" => (b.startInHead tag).done
    | _ => b.done
  | .endTag "frameset" =>
    if b.openElements.length == 1 then b.done
    else
      let b := b.pop
      (if b.currentIs "frameset" then b else { b with mode := .afterFrameset }).done
  | _ => b.done

/-- The rules after a frameset. -/
def afterFrameset (b : Builder) (token : Token) : Step :=
  match token with
  | .char c => (if isSpace c then b.addChar c else b).done
  | .comment text => (b.addComment text).done
  | .startTag tag =>
    match tag.name with
    | "html" => (b.mergeRoot tag).done
    | "noframes" => (b.startInHead tag).done
    | _ => b.done
  | .endTag "html" => { b with mode := .afterAfterFrameset }.done
  | _ => b.done

/-- The rules after a frameset and the outermost element. -/
def afterAfterFrameset (b : Builder) (token : Token) : Step :=
  match token with
  | .char c => if isSpace c then b.inBody token else b.done
  | .comment text => (b.addCommentTo Document.root text).done
  | .startTag tag =>
    match tag.name with
    | "html" => (b.mergeRoot tag).done
    | "noframes" => (b.startInHead tag).done
    | _ => b.done
  | _ => b.done

/-- The rules of the mode. -/
def byMode (b : Builder) (token : Token) : Step :=
  match b.mode with
  | .initial => b.inInitial token
  | .beforeHtml => b.beforeHtml token
  | .beforeHead => b.beforeHead token
  | .inHead => b.inHead token
  | .afterHead => b.afterHead token
  | .inBody => b.inBody token
  | .rawText => b.inRawText token
  | .inTable => b.inTable token
  | .inTableText => b.inTableText token
  | .inCaption => b.inCaption token
  | .inColumnGroup => b.inColumnGroup token
  | .inTableBody => b.inTableBody token
  | .inRow => b.inRow token
  | .inCell => b.inCell token
  | .inSelect => b.inSelect token
  | .inSelectInTable => b.inSelectInTable token
  | .inTemplate => b.inTemplate token
  | .afterBody => b.afterBody token
  | .inFrameset => b.inFrameset token
  | .afterFrameset => b.afterFrameset token
  | .afterAfterBody => b.afterAfterBody token
  | .afterAfterFrameset => b.afterAfterFrameset token

/-! ## Drawings and formulas -/

/-- Whether a token is read by the rules for drawings and formulas. -/
def isForeign (b : Builder) (token : Token) : Bool :=
  match b.current? with
  | none => false
  | some current =>
    if current.vocabulary == .html then false
    else
      match token with
      | .finish => false
      | .char _ | .null => !(current.holdsFormulaText || current.holdsDrawingMarkup)
      | .startTag tag =>
        if current.holdsFormulaText then ["mglyph", "malignmark"].contains tag.name
        else if current.holdsDrawingMarkup then false
        else
          !(current.vocabulary == .mathMl && current.name == "annotation-xml"
            && tag.name == "svg")
      | _ => true

/-- Leaves drawings and formulas. -/
def leaveForeign (b : Builder) : Builder :=
  { b with openElements := b.openElements.dropWhile fun element =>
      element.vocabulary != .html && !element.holdsFormulaText && !element.holdsDrawingMarkup }

/-- What an end tag inside a drawing or a formula closes: the elements that stay open, or
nothing when an element of the main vocabulary comes first. -/
def endForeign? (name : String) : List OpenElement → Option (List OpenElement)
  | [] => none
  | element :: outer =>
    if element.vocabulary == .html then none
    else if element.name.toLower == name then some outer
    else endForeign? name outer

/-- The rules inside a drawing or a formula. -/
def inForeign (b : Builder) (token : Token) : Step :=
  match token with
  | .null => (b.addChar replacement).done
  | .char c => ((if isSpace c then b else b.refuseFrameset).addChar c).done
  | .comment text => (b.addComment text).done
  | .startTag tag =>
    if tag.leavesForeign then b.leaveForeign.byMode token
    else
      match b.current? with
      | some current => (b.addForeign current.vocabulary tag).done
      | none => b.done
  | .endTag name =>
    if name == "br" || name == "p" then b.leaveForeign.byMode token
    else
      match endForeign? name b.openElements with
      | some outer => { b with openElements := outer }.done
      | none => b.byMode token
  | _ => b.done

/-! ## Runs -/

/-- Reads a token until no rule asks for it again. The fuel bounds the number of times. -/
def settle : Nat → Builder → Token → Builder
  | 0, b, _ => b
  | fuel + 1, b, token =>
    let step := if b.isForeign token then b.inForeign token else b.byMode token
    match step.again with
    | none => step.builder
    | some token => settle fuel step.builder token

/-- Takes a token. A line feed right after some start tags is left out, and a document type
has its place at the start only. -/
def accept (b : Builder) (token : Token) : Builder :=
  let skips := b.skipsLineFeed
  let b := { b with skipsLineFeed := false }
  match token with
  | .doctype doctype =>
    if b.mode == .initial then
      let (_, document) := b.document.create (.doctype (doctype.name.getD ""))
      let document := document.append Document.root (b.document.nodes.size)
      { b with document, oldLayout := doctype.asksOldLayout, mode := .beforeHtml }
    else b
  | _ =>
    if skips && token == .char '\n' then b
    else settle (4 * b.openElements.length + 4 * b.templateModes.length + 32) b token

/-- Reads a text to its end. The fuel bounds the number of steps of the lexer. -/
def run : Nat → Builder → List Char → Builder
  | 0, b, _ => b.accept .finish
  | _, b, [] => b.accept .finish
  | fuel + 1, b, c :: rest =>
    let lexeme := nextLexeme b.content b.isInForeign c rest
    run fuel (lexeme.tokens.foldl accept { b with content := lexeme.content }) lexeme.rest

end Builder

/-- The document of a text. A mark for the byte order at its start is left out. -/
def Document.ofText (text : String) : Document :=
  let chars := match normalLines text.toList with
    | '\ufeff' :: rest => rest
    | chars => chars
  (Builder.run chars.length {} chars).document

end ClassroomClient.Html
