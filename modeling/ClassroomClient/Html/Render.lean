/-
# Writing a document

An element is written with its attributes and its children between its tags. Characters that
would read as markup are written as references, except inside elements of raw text. The text
at the top is never raw.
-/

import ClassroomClient.Html.Document

namespace ClassroomClient.Html

/-- A character of a text. -/
def escapedInText (c : Char) : String :=
  if c == '&' then "&amp;"
  else if c == '\u00a0' then "&nbsp;"
  else if c == '<' then "&lt;"
  else if c == '>' then "&gt;"
  else String.singleton c

/-- A character of a value between double quotes. -/
def escapedInValue (c : Char) : String :=
  if c == '&' then "&amp;"
  else if c == '\u00a0' then "&nbsp;"
  else if c == '"' then "&quot;"
  else String.singleton c

/-- Elements whose text is written as it is. -/
def rawTextNames : List String :=
  ["style", "script", "xmp", "iframe", "noembed", "noframes", "plaintext"]

/-- Elements that have neither children nor an end tag. -/
def voidNames : List String :=
  ["area", "base", "basefont", "bgsound", "br", "col", "embed", "frame", "hr", "img", "input",
   "keygen", "link", "meta", "param", "source", "track", "wbr"]

/-- An attribute with the blank before it. -/
def Attribute.render (kept : Attribute) : String :=
  " " ++ kept.group.mark ++ kept.name ++ "=\""
    ++ String.join (kept.value.toList.map escapedInValue) ++ "\""

namespace Element

/-- Whether the text of an element is written as it is. -/
def holdsRawText (element : Element) : Bool :=
  element.vocabulary == .html && rawTextNames.contains element.name

/-- Whether an element has neither children nor an end tag. -/
def isVoid (element : Element) : Bool :=
  element.vocabulary == .html && voidNames.contains element.name

/-- The start tag of an element. -/
def startTag (element : Element) : String :=
  "<" ++ element.name ++ String.join (element.attributes.map Attribute.render) ++ ">"

end Element

namespace Document

/-- Writes nodes one after the other. `raw` says whether texts are written as they are. The
fuel bounds the number of nodes on the way from the first one to any other. -/
def renderNodes (document : Document) : Nat → Bool → List NodeId → String
  | 0, _, _ => ""
  | _, _, [] => ""
  | fuel + 1, raw, id :: rest =>
    let children := document.children id
    let written :=
      match document.content? id with
      | some (.text text) =>
        if raw then text else String.join (text.toList.map escapedInText)
      | some (.comment text) => "<!--" ++ text ++ "-->"
      | some (.doctype name) => "<!DOCTYPE " ++ name ++ ">"
      | some (.element element) =>
        if element.isVoid then element.startTag
        else
          element.startTag ++ document.renderNodes fuel element.holdsRawText children
            ++ "</" ++ element.name ++ ">"
      | some .fragment => document.renderNodes fuel raw children
      | _ => ""
    written ++ document.renderNodes fuel raw rest

/-- The text of what stands inside a node. -/
def innerText (document : Document) (id : NodeId) : String :=
  document.renderNodes (document.nodes.size + 1) false (document.children id)

end Document

end ClassroomClient.Html
