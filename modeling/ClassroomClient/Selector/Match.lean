/-
# Elements that a selector describes

An element is described when one of the chains fits it and the elements around and before it.
-/

import ClassroomClient.Selector.Reader

namespace ClassroomClient.Selector

open Html (Document NodeId Element)

/-- Attributes whose values are compared in any case inside the main vocabulary. -/
def anyCaseAttributes : List String :=
  ["accept", "accept-charset", "align", "alink", "axis", "bgcolor", "charset", "checked",
   "clear", "codetype", "color", "compact", "declare", "defer", "dir", "direction", "disabled",
   "enctype", "face", "frame", "hreflang", "http-equiv", "lang", "language", "link", "media",
   "method", "multiple", "nohref", "noresize", "noshade", "nowrap", "readonly", "rel", "rev",
   "rules", "scope", "scrolling", "selected", "shape", "target", "text", "type", "valign",
   "valuetype", "vlink"]

/-- Whether a list is a part of another one. -/
def isPartOf (part : List Char) : List Char → Bool
  | [] => part.isEmpty
  | c :: rest => part.isPrefixOf (c :: rest) || isPartOf part rest

namespace Comparison

/-- Whether a value stands in the comparison to the one asked for. -/
def holds (comparison : Comparison) (asked value : List Char) : Bool :=
  match comparison with
  | .equal => value == asked
  | .word => !asked.isEmpty && (value.splitOnP isSpace).contains asked
  | .dashed => value == asked || (asked ++ ['-']).isPrefixOf value
  | .start => !asked.isEmpty && asked.isPrefixOf value
  | .finish => !asked.isEmpty && asked.isSuffixOf value
  | .part => !asked.isEmpty && isPartOf asked value

end Comparison

/-- Whether an element has an attribute that passes the test. -/
def AttributeTest.holds (test : AttributeTest) (element : Element) : Bool :=
  let name := if element.vocabulary == .html then test.name.toLower else test.name
  let anyCase : Bool := match test.caseRule with
    | .exact => false
    | .anyCase => true
    | .byAttribute =>
      element.vocabulary == .html && anyCaseAttributes.contains test.name.toLower
  let folded (text : String) : List Char :=
    if anyCase then text.toList.map Char.toLower else text.toList
  element.attributes.any fun kept =>
    (test.anyGroup || kept.group == .plain) && kept.name == name
      && match test.comparison with
        | none => true
        | some (comparison, asked) => comparison.holds (folded asked) (folded kept.value)

namespace Places

/-- Whether a place, counted from one, is meant. -/
def includes (places : Places) (place : Int) : Bool :=
  let distance := place - places.offset
  if places.step == 0 then distance == 0
  else distance % places.step == 0 && 0 ≤ distance * places.step

end Places

/-- The elements among the siblings of an element and itself, in order. -/
def siblings (document : Document) (id : NodeId) : List NodeId :=
  match document.parent? id with
  | some parent => document.childElements parent
  | none => [id]

/-- The element right before another one. -/
def previousElement? (document : Document) (id : NodeId) : Option NodeId :=
  ((siblings document id).takeWhile (· != id)).getLast?

/-- The element around another one. -/
def parentElement? (document : Document) (id : NodeId) : Option NodeId :=
  match document.parent? id with
  | some parent => if (document.element? parent).isSome then some parent else none
  | none => none

/-- The elements around an element, the innermost one first. The fuel bounds their number. -/
def ancestors (document : Document) : Nat → NodeId → List NodeId
  | 0, _ => []
  | fuel + 1, id =>
    match parentElement? document id with
    | some parent => parent :: ancestors document fuel parent
    | none => []

/-- The place of an element among its siblings, counted from one. -/
def placeOf (document : Document) (places : Places) (id : NodeId) (element : Element) : Int :=
  let all := siblings document id
  let alike := if places.sameName then
      all.filter fun sibling =>
        match document.element? sibling with
        | some other => other.name == element.name && other.vocabulary == element.vocabulary
        | none => false
    else all
  let ordered := if places.fromEnd then alike.reverse else alike
  ((ordered.takeWhile (· != id)).length : Nat) + 1

/-- Whether an element stands directly below the root. -/
def isOutermost (document : Document) (id : NodeId) : Bool :=
  document.parent? id == some Document.root

/-- Whether an element holds neither elements nor text. -/
def isEmpty (document : Document) (id : NodeId) : Bool :=
  (document.children id).all fun child =>
    (document.element? child).isNone && (document.text? child).isNone

mutual

/-- Whether an element meets a condition. `anchor` is the element that a condition on inner
elements starts from. The fuel of this and the next function bounds the depth of the
search. -/
def meets (document : Document) (anchor : Option NodeId) :
    Nat → Simple → NodeId → Element → Bool
  | 0, _, _, _ => false
  | fuel + 1, simple, id, element =>
    match simple with
    | .any => true
    | .never => false
    | .named name =>
      element.name == (if element.vocabulary == .html then name.toLower else name)
    | .id value => element.attribute? "id" == some value
    | .className value =>
      match element.attribute? "class" with
      | some classes => (classes.toList.splitOnP isSpace).contains value.toList && value != ""
      | none => false
    | .attributeTest test => test.holds element
    | .outermost => isOutermost document id
    | .empty => isEmpty document id
    | .place places => places.includes (placeOf document places id element)
    | .anyOf choices => choices.any fun chain => fits document anchor fuel chain id
    | .noneOf choices => choices.all fun chain => !fits document anchor fuel chain id
    | .contains choices =>
      (List.range document.nodes.size).any fun other =>
        choices.any fun chain => fits document (some id) fuel chain other
    | .anchor => anchor == some id

/-- Whether a chain fits an element. -/
def fits (document : Document) (anchor : Option NodeId) : Nat → Chain → NodeId → Bool
  | 0, _, _ => false
  | fuel + 1, chain, id =>
    match document.element? id with
    | none => false
    | some element =>
      match chain with
      | .first compound =>
        compound.all fun simple => meets document anchor fuel simple id element
      | .after left combinator compound =>
        (compound.all fun simple => meets document anchor fuel simple id element)
          && match combinator with
            | .descendant =>
              (ancestors document document.nodes.size id).any
                fun outer => fits document anchor fuel left outer
            | .child =>
              match parentElement? document id with
              | some outer => fits document anchor fuel left outer
              | none => false
            | .next =>
              match previousElement? document id with
              | some before => fits document anchor fuel left before
              | none => false
            | .later =>
              ((siblings document id).takeWhile (· != id)).any
                fun before => fits document anchor fuel left before

end

mutual

/-- The depth of a condition. -/
def Simple.depth : Simple → Nat
  | .anyOf choices | .noneOf choices | .contains choices => depthOfAll choices + 1
  | _ => 1

/-- The depth of a chain. -/
def Chain.depth : Chain → Nat
  | .first compound => depthOfCompound compound + 1
  | .after left _ compound => left.depth + depthOfCompound compound + 1

/-- The depth of a compound. -/
def depthOfCompound : List Simple → Nat
  | [] => 0
  | simple :: rest => simple.depth + depthOfCompound rest

/-- The depth of a list of chains. -/
def depthOfAll : List Chain → Nat
  | [] => 0
  | chain :: rest => chain.depth + depthOfAll rest

end

/-- The elements that a selector describes, in the order of their creation. Elements outside
of any tree are left out. -/
def select (document : Document) (choices : List Chain) : List NodeId :=
  (List.range document.nodes.size).filter fun id =>
    (document.parent? id).isSome
      && choices.any fun chain => fits document none (2 * depthOfAll choices + 2) chain id

end ClassroomClient.Selector
