/-
# Rules for the head

Titles, styles, scripts and templates. The rules of the other modes send these tags here.
-/

import ClassroomClient.Html.Builder.Formatting

namespace ClassroomClient.Html.Builder

/-- Start tags that belong to the head wherever they stand. -/
def headTags : List String :=
  ["base", "basefont", "bgsound", "link", "meta", "noframes", "script", "style", "template",
   "title"]

/-- Closes a template. -/
def endTemplate (b : Builder) : Builder :=
  if b.hasOpen "template" then
    let b := ((b.closeImplied thoroughImpliedEnds).close "template").clearToMarker
    { b with templateModes := b.templateModes.tail }.chooseMode
  else b

/-- Opens a template. -/
def openTemplate (b : Builder) (tag : Tag) : Builder :=
  { (b.addMarker.refuseFrameset.openTag tag) with
    mode := .inTemplate
    templateModes := .inTemplate :: b.templateModes }

/-- A start tag that belongs to the head. -/
def startInHead (b : Builder) (tag : Tag) : Builder :=
  match tag.name with
  | "title" => b.openRaw tag (.escapable tag.name)
  | "noframes" | "style" | "noscript" => b.openRaw tag (.raw tag.name)
  | "script" => b.openRaw tag (.script .plain)
  | "template" => b.openTemplate tag
  | _ => b.addTag tag

/-- The rules inside the head. -/
def inHead (b : Builder) (token : Token) : Step :=
  let leave : Step := b.pop.again .afterHead token
  match token with
  | .char c => if isSpace c then (b.addChar c).done else leave
  | .comment text => (b.addComment text).done
  | .startTag tag =>
    if tag.name == "html" then (b.mergeRoot tag).done
    else if tag.name == "head" then b.done
    else if headTags.contains tag.name || tag.name == "noscript" then
      (b.startInHead tag).done
    else leave
  | .endTag name =>
    match name with
    | "head" => { b.pop with mode := .afterHead }.done
    | "template" => b.endTemplate.done
    | "body" | "html" | "br" => leave
    | _ => b.done
  | _ => leave

/-- The rules between the head and the body. -/
def afterHead (b : Builder) (token : Token) : Step :=
  let leave : Step := (b.openMissing "body").again .inBody token
  match token with
  | .char c => if isSpace c then (b.addChar c).done else leave
  | .comment text => (b.addComment text).done
  | .startTag tag =>
    match tag.name with
    | "html" => (b.mergeRoot tag).done
    | "body" => { (b.openTag tag).refuseFrameset with mode := .inBody }.done
    | "frameset" => { b.openTag tag with mode := .inFrameset }.done
    | "head" => b.done
    | _ =>
      if headTags.contains tag.name then
        match b.head with
        | some head =>
          let opened := { b with openElements := head :: b.openElements }
          ((opened.startInHead tag).removeOpen head.id).done
        | none => (b.startInHead tag).done
      else leave
  | .endTag name =>
    match name with
    | "template" => b.endTemplate.done
    | "body" | "html" | "br" => leave
    | _ => b.done
  | _ => leave

end ClassroomClient.Html.Builder
