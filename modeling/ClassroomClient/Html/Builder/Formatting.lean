/-
# Formatting elements

Elements such as `b` and `i` may be closed in another order than they were opened. The builder
keeps them on a list, opens them again where text follows, and rearranges the tree when an end
tag reaches through a block.
-/

import ClassroomClient.Html.Builder.Basic

namespace ClassroomClient.Html.Builder

/-- The formatting elements since the last marker. -/
def formattingSinceMarker (b : Builder) : List (NodeId × Tag) :=
  (b.formatting.takeWhile (· != .marker)).filterMap fun
    | .element id tag => some (id, tag)
    | .marker => none

/-- The tag of the formatting element with a number. -/
def formattingTag? (b : Builder) (id : NodeId) : Option Tag :=
  b.formatting.findSome? fun
    | .element other tag => if other == id then some tag else none
    | .marker => none

/-- Takes an element out of the formatting elements. -/
def removeFormatting (b : Builder) (id : NodeId) : Builder :=
  { b with formatting := b.formatting.filter (!FormatEntry.isFor id ·) }

/-- Puts an entry in the place of another one. -/
def replaceFormatting (b : Builder) (id : NodeId) (entry : FormatEntry) : Builder :=
  { b with formatting := b.formatting.map fun old =>
      if FormatEntry.isFor id old then entry else old }

/-- Puts an entry after another one. -/
def insertFormattingAfter (b : Builder) (id : NodeId) (entry : FormatEntry) : Builder :=
  { b with formatting := b.formatting.flatMap fun old =>
      if FormatEntry.isFor id old then [entry, old] else [old] }

/-- Drops the formatting elements since the last marker, and the marker. -/
def clearToMarker (b : Builder) : Builder :=
  { b with formatting := (b.formatting.dropWhile (· != .marker)).tail }

/-- Adds a marker. -/
def addMarker (b : Builder) : Builder := { b with formatting := .marker :: b.formatting }

/-- Whether an entry is a marker or its element is open. -/
def isMarkerOrOpen (b : Builder) : FormatEntry → Bool
  | .marker => true
  | .element id _ => b.openElements.any (·.id == id)

/-- Opens the elements of entries again, the earliest one first. -/
def reopen (b : Builder) (entries : List FormatEntry) : Builder :=
  entries.foldl (fun b entry =>
    match entry with
    | .marker => b
    | .element id tag =>
      let b := b.openTag tag
      match b.current? with
      | some opened => b.replaceFormatting id (.element opened.id tag)
      | none => b) b

/-- Opens the formatting elements again that have been closed since the last one that is
open. -/
def reconstruct (b : Builder) : Builder :=
  b.reopen (b.formatting.takeWhile (!b.isMarkerOrOpen ·)).reverse

/-- Opens a formatting element. Of elements that agree at most three are kept. -/
def openFormatting (b : Builder) (tag : Tag) : Builder :=
  let same := b.formattingSinceMarker.filter fun (_, old) => tag.agrees old
  let b := if same.length ≥ 3 then
      match same.getLast? with
      | some (id, _) => b.removeFormatting id
      | none => b
    else b
  let b := b.openTag tag
  match b.current? with
  | some opened => { b with formatting := .element opened.id tag :: b.formatting }
  | none => b

/-! ## End tags -/

/-- The elements outside of the first one that an end tag closes, unless a special element
stands before it. -/
def outsideOf? (name : String) : List OpenElement → Option (List OpenElement)
  | [] => none
  | element :: outer =>
    if element.isNamed name then some outer
    else if element.isSpecial then none
    else outsideOf? name outer

/-- Closes an element by an end tag that has no rule of its own. -/
def endOther (b : Builder) (name : String) : Builder :=
  match outsideOf? name b.openElements with
  | some outer => { b with openElements := outer }
  | none => b

/-- What rearranging has changed: the state, the open elements between the formatting element
and the block, the node moved last, and the entry after which the new one goes. -/
structure Rearranged where
  builder : Builder
  between : List OpenElement := []
  moved : NodeId
  after : Option NodeId := none

/-- Gives the elements between a block and the formatting element around it a copy each, the
one next to the block first. An element that is no formatting element, or is not among the
three next to the block, is closed. -/
def copyBetween : Nat → List OpenElement → Rearranged → Rearranged
  | _, [], state => state
  | count, element :: outer, state =>
    match state.builder.formattingTag? element.id with
    | none => copyBetween (count + 1) outer state
    | some tag =>
      if count ≥ 3 then
        copyBetween (count + 1) outer
          { state with builder := state.builder.removeFormatting element.id }
      else
        let (id, document) := state.builder.document.createElement (elementOf tag)
        let builder := { state.builder with document := document.append id state.moved }
        copyBetween (count + 1) outer
          { builder := builder.replaceFormatting element.id (.element id tag)
            between := state.between ++ [{ id, vocabulary := .html, name := tag.name }]
            moved := id
            after := some (state.after.getD id) }

/-- Rearranges the tree around a block that an end tag reaches through. `inner` holds the open
elements inside of the block, `between` those between it and the formatting element, and
`outer` those outside of the formatting element. -/
def rearrange (b : Builder) (formatting : NodeId) (tag : Tag)
    (inner : List OpenElement) (block : OpenElement) (between outer : List OpenElement) :
    Builder :=
  let state := copyBetween 0 between { builder := b, moved := block.id }
  let b := state.builder
  let document := b.document.detach state.moved
  let b := { b with document }
  let b := match outer.head? with
    | some ancestor => { b with document := put document (b.placeIn ancestor) state.moved }
    | none => b
  let (id, document) := b.document.createElement (elementOf tag)
  let document := (document.moveChildren block.id id).append block.id id
  let entry := FormatEntry.element id tag
  let b := { b with document }
  let b := match state.after with
    | none => b.replaceFormatting formatting entry
    | some earlier => (b.insertFormattingAfter earlier entry).removeFormatting formatting
  { b with
    openElements :=
      inner ++ { id, vocabulary := .html, name := tag.name } :: block :: state.between ++ outer }

/-- One round of closing a formatting element: the new state, and whether another round
follows. -/
def adoptOnce (b : Builder) (name : String) : Builder × Bool :=
  match b.formattingSinceMarker.find? fun (_, tag) => tag.name == name with
  | none => (b.endOther name, false)
  | some (id, tag) =>
    if !b.openElements.any (·.id == id) then (b.removeFormatting id, false)
    else if !search OpenElement.endsScope (·.id == id) b.openElements then (b, false)
    else
      let inside := b.openElements.takeWhile (·.id != id)
      let outer := (b.openElements.dropWhile (·.id != id)).tail
      match (inside.reverse.dropWhile (!·.isSpecial)) with
      | [] => ({ b with openElements := outer }.removeFormatting id, false)
      | block :: inner =>
        let between := (inside.reverse.takeWhile (!·.isSpecial)).reverse
        (b.rearrange id tag inner.reverse block between outer, true)

/-- Rounds of closing a formatting element. -/
def adoptRounds (name : String) : Nat → Builder → Builder
  | 0, b => b
  | rounds + 1, b =>
    match b.adoptOnce name with
    | (b, true) => adoptRounds name rounds b
    | (b, false) => b

/-- Closes a formatting element by its end tag. -/
def endFormatting (b : Builder) (name : String) : Builder :=
  match b.current? with
  | some current =>
    if current.isNamed name && (b.formattingTag? current.id).isNone then b.pop
    else adoptRounds name 8 b
  | none => adoptRounds name 8 b

/-- Closes a link that is still open before another one. -/
def endOpenLink (b : Builder) : Builder :=
  match b.formattingSinceMarker.find? fun (_, tag) => tag.name == "a" with
  | none => b
  | some (id, _) => ((b.endFormatting "a").removeFormatting id).removeOpen id

end ClassroomClient.Html.Builder
