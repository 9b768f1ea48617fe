/-
# Rules for tables and selections

Text and elements that must not stand in a table are put before it. Text between the parts of
a table is collected first, because blanks may stay where they are.
-/

import ClassroomClient.Html.Builder.Body

namespace ClassroomClient.Html.Builder

/-- Reads a token by the rules of the body, with its nodes put before the table. -/
def besideTable (b : Builder) (token : Token) : Step :=
  let step := { b with besideTables := true }.inBody token
  { step with builder := { step.builder with besideTables := false } }

/-- Start tags of the parts of a table. -/
def partTags : List String :=
  ["caption", "col", "colgroup", "tbody", "td", "tfoot", "th", "thead", "tr"]

/-- A character inside a table. -/
def charInTable (b : Builder) (token : Token) : Step :=
  if (b.current?.map (·.refusesText)).getD false then
    { b with returnMode := b.mode }.again .inTableText token
  else b.besideTable token

/-- Whether a new body of a table ends the one before it. -/
def hasOuterTable (b : Builder) : Bool := b.inTableScope ["table", "tbody", "tfoot"]

/-- The rules inside a table. -/
def inTable (b : Builder) (token : Token) : Step :=
  let inside := b.popTo tableEnds
  match token with
  | .null | .char _ => b.charInTable token
  | .comment text => (b.addComment text).done
  | .startTag tag =>
    match tag.name with
    | "caption" => { inside.addMarker.openTag tag with mode := .inCaption }.done
    | "colgroup" => { inside.openTag tag with mode := .inColumnGroup }.done
    | "col" => (inside.openMissing "colgroup").again .inColumnGroup token
    | "tbody" | "tfoot" | "thead" => { inside.openTag tag with mode := .inTableBody }.done
    | "td" | "th" | "tr" => (inside.openMissing "tbody").again .inTableBody token
    | "table" =>
      if b.inTableScope ["table"] then
        let b := b.close "table"
        b.again (b.modeForOpen b.openElements) token
      else b.done
    | "style" | "script" | "template" => (b.startInHead tag).done
    | "input" => if tag.isHiddenInput then (b.addTag tag).done else b.besideTable token
    | "form" =>
      if b.hasOpen "template" || b.form.isSome then b.done
      else
        let (form, b) := b.addElement (elementOf tag)
        { b with form := some form.id }.done
    | _ => b.besideTable token
  | .endTag name =>
    match name with
    | "table" => (if b.inTableScope ["table"] then (b.close "table").chooseMode else b).done
    | "template" => b.endTemplate.done
    | "body" | "html" => b.done
    | _ => if partTags.contains name then b.done else b.besideTable token
  | .finish => b.inBody token
  | .doctype _ => b.done

/-- The rules for text between the parts of a table. -/
def inTableText (b : Builder) (token : Token) : Step :=
  match token with
  | .null => b.done
  | .char c => { b with tableText := c :: b.tableText }.done
  | _ =>
    let text := b.tableText.reverse
    let b := { b with tableText := [] }
    let b :=
      if text.all isSpace then text.foldl addChar b
      else text.foldl (fun b c => (b.besideTable (.char c)).builder) b
    b.again b.returnMode token

/-- The rules inside a caption. -/
def inCaption (b : Builder) (token : Token) : Step :=
  let closed := ((b.closeImplied impliedEnds).close "caption").clearToMarker
  let leave : Step :=
    if b.inTableScope ["caption"] then closed.again .inTable token else b.done
  match token with
  | .startTag tag => if partTags.contains tag.name then leave else b.inBody token
  | .endTag "table" => leave
  | .endTag "caption" =>
    (if b.inTableScope ["caption"] then { closed with mode := .inTable } else b).done
  | .endTag name =>
    if name == "body" || name == "html" || partTags.contains name then b.done
    else b.inBody token
  | _ => b.inBody token

/-- The rules inside a group of columns. -/
def inColumnGroup (b : Builder) (token : Token) : Step :=
  let leave : Step := if b.currentIs "colgroup" then b.pop.again .inTable token else b.done
  match token with
  | .char c => if isSpace c then (b.addChar c).done else leave
  | .comment text => (b.addComment text).done
  | .startTag tag =>
    match tag.name with
    | "html" => (b.mergeRoot tag).done
    | "col" => (b.addTag tag).done
    | "template" => (b.startInHead tag).done
    | _ => leave
  | .endTag name =>
    match name with
    | "colgroup" => (if b.currentIs "colgroup" then { b.pop with mode := .inTable } else b).done
    | "col" => b.done
    | "template" => b.endTemplate.done
    | _ => leave
  | .finish => b.inBody token
  | _ => leave

/-- The rules inside the body of a table. -/
def inTableBody (b : Builder) (token : Token) : Step :=
  let inside := b.popTo tableBodyEnds
  let leave : Step := if b.hasOuterTable then inside.pop.again .inTable token else b.done
  match token with
  | .startTag tag =>
    match tag.name with
    | "tr" => { inside.openTag tag with mode := .inRow }.done
    | "th" | "td" => (inside.openMissing "tr").again .inRow token
    | "caption" | "col" | "colgroup" | "tbody" | "tfoot" | "thead" => leave
    | _ => b.inTable token
  | .endTag name =>
    match name with
    | "tbody" | "tfoot" | "thead" =>
      (if b.inTableScope [name] then { inside.pop with mode := .inTable } else b).done
    | "table" => leave
    | "body" | "caption" | "col" | "colgroup" | "html" | "td" | "th" | "tr" => b.done
    | _ => b.inTable token
  | _ => b.inTable token

/-- The rules inside a row. -/
def inRow (b : Builder) (token : Token) : Step :=
  let inside := b.popTo tableRowEnds
  let leave : Step :=
    if b.inTableScope ["tr"] then inside.pop.again .inTableBody token else b.done
  match token with
  | .startTag tag =>
    match tag.name with
    | "th" | "td" => { (inside.openTag tag).addMarker with mode := .inCell }.done
    | "caption" | "col" | "colgroup" | "tbody" | "tfoot" | "thead" | "tr" => leave
    | _ => b.inTable token
  | .endTag name =>
    match name with
    | "tr" =>
      (if b.inTableScope ["tr"] then { inside.pop with mode := .inTableBody } else b).done
    | "table" => leave
    | "tbody" | "tfoot" | "thead" => if b.inTableScope [name] then leave else b.done
    | "body" | "caption" | "col" | "colgroup" | "html" | "td" | "th" => b.done
    | _ => b.inTable token
  | _ => b.inTable token

/-- Closes the open cell. -/
def closeCell (b : Builder) : Builder :=
  ((b.closeImplied impliedEnds).popThrough (·.isAny ["td", "th"])).clearToMarker

/-- The rules inside a cell. -/
def inCell (b : Builder) (token : Token) : Step :=
  match token with
  | .startTag tag =>
    if partTags.contains tag.name then
      if b.inTableScope ["td", "th"] then b.closeCell.again .inRow token else b.done
    else b.inBody token
  | .endTag name =>
    match name with
    | "td" | "th" =>
      if b.inTableScope [name] then
        { ((b.closeImplied impliedEnds).close name).clearToMarker with mode := .inRow }.done
      else b.done
    | "body" | "caption" | "col" | "colgroup" | "html" => b.done
    | "table" | "tbody" | "tfoot" | "thead" | "tr" =>
      if b.inTableScope [name] then b.closeCell.again .inRow token else b.done
    | _ => b.inBody token
  | _ => b.inBody token

/-! ## Selections -/

/-- Closes the innermost element if it has the name. -/
def popIf (b : Builder) (name : String) : Builder := if b.currentIs name then b.pop else b

/-- Closes a group of options, with the option that is open in it. -/
def endGroup (b : Builder) : Builder :=
  let b := match b.openElements with
    | first :: second :: _ =>
      if first.isNamed "option" && second.isNamed "optgroup" then b.pop else b
    | _ => b
  b.popIf "optgroup"

/-- The rules inside a selection. -/
def inSelect (b : Builder) (token : Token) : Step :=
  let ended := b.close "select"
  match token with
  | .char c => (b.addChar c).done
  | .comment text => (b.addComment text).done
  | .startTag tag =>
    match tag.name with
    | "html" => (b.mergeRoot tag).done
    | "option" => ((b.popIf "option").openTag tag).done
    | "optgroup" => (((b.popIf "option").popIf "optgroup").openTag tag).done
    | "hr" => (((b.popIf "option").popIf "optgroup").addTag tag).done
    | "select" => (if b.inSelectScope then ended.chooseMode else b).done
    | "input" | "keygen" | "textarea" =>
      if b.inSelectScope then ended.again (ended.modeForOpen ended.openElements) token
      else b.done
    | "script" | "template" => (b.startInHead tag).done
    | _ => b.done
  | .endTag name =>
    match name with
    | "optgroup" => b.endGroup.done
    | "option" => (b.popIf "option").done
    | "select" => (if b.inSelectScope then ended.chooseMode else b).done
    | "template" => b.endTemplate.done
    | _ => b.done
  | .finish => b.inBody token
  | _ => b.done

/-- Tags that end a selection inside a table. -/
def leavingSelect : List String :=
  ["caption", "table", "tbody", "tfoot", "thead", "tr", "td", "th"]

/-- The rules inside a selection inside a table. -/
def inSelectInTable (b : Builder) (token : Token) : Step :=
  let ended := b.close "select"
  let leave : Step := ended.again (ended.modeForOpen ended.openElements) token
  match token with
  | .startTag tag => if leavingSelect.contains tag.name then leave else b.inSelect token
  | .endTag name =>
    if leavingSelect.contains name then
      if b.inTableScope [name] then leave else b.done
    else b.inSelect token
  | _ => b.inSelect token

end ClassroomClient.Html.Builder
