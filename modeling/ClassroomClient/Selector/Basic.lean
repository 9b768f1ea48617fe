/-
# Selectors

A selector describes elements by their names, attributes and places. It is a list of
alternatives, each a chain of compounds from the element itself to those around and before it.
`Selector.ofText?` reads a selector, and `Document.select` gives the elements that it
describes, in the order of their creation.
-/

import ClassroomClient.Html.Document
import ClassroomClient.Selector.Token

namespace ClassroomClient.Selector

/-- How the value of an attribute is compared. -/
inductive Comparison
  | equal
  | word
  | dashed
  | start
  | finish
  | part
  deriving DecidableEq, Repr, Inhabited

/-- Whether a comparison heeds the case of letters. Without a mark some attributes do not. -/
inductive CaseRule
  | byAttribute
  | exact
  | anyCase
  deriving DecidableEq, Repr, Inhabited

/-- What is asked of an attribute. Without a comparison it has to be there. -/
structure AttributeTest where
  name : String
  anyGroup : Bool := false
  comparison : Option (Comparison × String) := none
  caseRule : CaseRule := .byAttribute
  deriving DecidableEq, Repr, Inhabited

/-- How a compound stands to the one on its left. -/
inductive Combinator
  | descendant
  | child
  | next
  | later
  deriving DecidableEq, Repr, Inhabited

/-- Which places of an element among its siblings are meant. -/
structure Places where
  step : Int
  offset : Int
  fromEnd : Bool := false
  sameName : Bool := false
  deriving DecidableEq, Repr, Inhabited

mutual

/-- A single condition on an element. -/
inductive Simple
  | any
  | never
  | named (name : String)
  | id (value : String)
  | className (value : String)
  | attributeTest (test : AttributeTest)
  | outermost
  | empty
  | place (places : Places)
  | anyOf (choices : List Chain)
  | noneOf (choices : List Chain)
  | contains (choices : List Chain)
  | anchor

/-- A compound with what stands to its left. -/
inductive Chain
  | first (compound : List Simple)
  | after (left : Chain) (combinator : Combinator) (compound : List Simple)

end

instance : Inhabited Chain := ⟨.first []⟩

end ClassroomClient.Selector
