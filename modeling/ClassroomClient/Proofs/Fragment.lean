/-
# Fragments and ids

A fragment is looked up by a selector into which the id is written as it is. What is found are
elements with the id that this text spells between quotes, so that ids of plain characters are
looked up exactly, and an id with a line end is never found. Among several elements with the id the
first one is meant, in the order of their creation. This is their order in the document, unless the
reader of the page has put an element before older ones or has left old ones behind.
-/

import ClassroomClient.Proofs.Selector
import Mathlib.Data.List.Sort

namespace ClassroomClient

open Html (NodeId Document Element)

/-! ## Nodes with an id -/

namespace Html.Document

/-- Whether a node is an element whose attribute `id` has this value. -/
def hasId (document : Document) (id : String) (node : NodeId) : Bool :=
  (document.element? node).any fun element =>
    element.attributes.contains { name := "id", value := id }

/-- The nodes of all trees, in the order of their creation. -/
def created (document : Document) : List NodeId :=
  (List.range document.nodes.size).filter fun node => (document.parent? node).isSome

/-- Nodes, each with all that stands inside of it. The fuel bounds the number of nodes on the way
from the first one to any other. -/
def walk (document : Document) : Nat → List NodeId → List NodeId
  | 0, _ => []
  | _, [] => []
  | fuel + 1, node :: rest =>
    node :: document.walk fuel (document.children node) ++ document.walk fuel rest

/-- The nodes below the root, in the order of the document. -/
def inOrder (document : Document) : List NodeId :=
  document.walk (document.nodes.size + 1) (document.children root)

/-- What stands inside the first of some nodes with an id. -/
def firstInside? (document : Document) (nodes : List NodeId) (id : String) : Option String :=
  (nodes.find? (document.hasId id)).map document.innerText

theorem lt_size_of_hasId {document : Document} {id : String} {node : NodeId}
    (hid : document.hasId id node = true) : node < document.nodes.size := by
  by_contra hbeyond
  have hnone : document.element? node = none := by
    simp [element?, content?, Nat.le_of_not_lt hbeyond]
  rw [Document.hasId, hnone] at hid
  cases hid

/-- The elements with an id stand in the document in the order of their creation, and none of them
is left in a tree beside it. -/
structure IsOrdered (document : Document) (id : String) : Prop where
  ascending : (document.inOrder.filter (document.hasId id)).Pairwise (· < ·)
  attached : ∀ node < document.nodes.size, document.hasId id node = true →
    (node ∈ document.created ↔ node ∈ document.inOrder)

instance (document : Document) (id : String) : Decidable (document.IsOrdered id) :=
  decidable_of_iff
    ((document.inOrder.filter (document.hasId id)).Pairwise (· < ·) ∧
      ∀ node < document.nodes.size, document.hasId id node = true →
        (node ∈ document.created ↔ node ∈ document.inOrder))
    ⟨fun ⟨hascending, hattached⟩ => ⟨hascending, hattached⟩,
      fun ⟨hascending, hattached⟩ => ⟨hascending, hattached⟩⟩

/-- In an order that is the same, the first element is the same. -/
theorem IsOrdered.firstInside?_created {document : Document} {id : String}
    (hordered : document.IsOrdered id) :
    document.firstInside? document.created id = document.firstInside? document.inOrder id := by
  have hcreated : (document.created.filter (document.hasId id)).Pairwise (· < ·) :=
    (List.pairwise_lt_range.filter _).filter _
  have hsame : document.created.filter (document.hasId id) =
      document.inOrder.filter (document.hasId id) := by
    apply hcreated.eq_of_mem_iff hordered.ascending
    intro node
    rw [List.mem_filter, List.mem_filter]
    exact and_congr_left fun hid => hordered.attached node (lt_size_of_hasId hid) hid
  rw [firstInside?, firstInside?, ← List.head?_filter, ← List.head?_filter, hsame]

end Html.Document

/-! ## What the selector selects -/

namespace Selector

/-- An id is compared letter by letter, in all vocabularies. -/
theorem holds_idTest (id : String) (element : Element) :
    AttributeTest.holds { name := "id", comparison := some (.equal, id) } element =
      element.attributes.contains { name := "id", value := id } := by
  have hlower : "id".toLower = "id" := by decide +kernel
  have hexact : anyCaseAttributes.contains "id" = false := by decide +kernel
  rw [AttributeTest.holds, hlower, hexact, ite_self, Bool.and_false, List.contains_eq_any_beq]
  congr 1
  funext kept
  rcases kept with ⟨group, name, value⟩
  rw [Bool.eq_iff_iff]
  simp only [Comparison.holds, Bool.false_or, Bool.and_eq_true, beq_iff_eq,
    if_neg Bool.false_ne_true, String.toList_inj, Html.Attribute.mk.injEq]
  rw [and_assoc, eq_comm (a := group), eq_comm (a := name), eq_comm (a := value)]

theorem fits_idChain (document : Document) (id : String) (fuel : Nat) (node : NodeId) :
    fits document none (fuel + 2) (idChain id) node = document.hasId id node := by
  rw [fits, Document.hasId]
  cases document.element? node with
  | none => rfl
  | some element => simp [idChain, meets, holds_idTest]

/-- The selector for an id selects the elements of all trees that have it. -/
theorem select_idChain (document : Document) (id : String) :
    select document [idChain id] = document.created.filter (document.hasId id) := by
  have hdepth : 2 * depthOfAll [idChain id] + 2 = 4 + 2 := rfl
  rw [select, Document.created, List.filter_filter, hdepth]
  congr 1
  funext node
  rw [List.any_cons, List.any_nil, Bool.or_false, fits_idChain, Bool.and_comm]

end Selector

/-! ## Look-ups -/

theorem extractFragment_of_spells {elementId id : String}
    (hspells : Selector.Spells elementId.toList id.toList) (page : String) :
    extractFragment page elementId =
      (Html.Document.ofText page).firstInside? (Html.Document.ofText page).created id := by
  rw [extractFragment, Selector.ofText?_idSelector hspells]
  simp only [Option.bind_eq_bind, Option.bind_some, Selector.select_idChain, List.head?_filter]
  exact Option.map_eq_bind.symm

/-- A page is searched for the id that a text spells: the elements of all its trees in the order of
their creation, and so the document itself where the elements with this id stand in this order. A
text of plain characters spells itself. With a line end before all quotes and backslashes it spells
nothing, and no page has what it names. -/
theorem extractFragment_spelled (page : String) :
    let document := Html.Document.ofText page
    (∀ elementId id : String, Selector.Spells elementId.toList id.toList →
      extractFragment page elementId = document.firstInside? document.created id ∧
        (document.IsOrdered id →
          extractFragment page elementId = document.firstInside? document.inOrder id)) ∧
    (∀ elementId : String, (∀ c ∈ elementId.toList, Selector.isPlain c = true) →
      document.IsOrdered elementId →
        extractFragment page elementId = document.firstInside? document.inOrder elementId) ∧
    ∀ (elementId : String) (front : List Char) (c : Char) (rest : List Char),
      elementId.toList = front ++ c :: rest → (∀ c ∈ front, c ≠ '"' ∧ c ≠ '\\') →
        Selector.isLineEnd c = true → extractFragment page elementId = none := by
  intro document
  have hspelled {elementId id : String} (hspells : Selector.Spells elementId.toList id.toList)
      (hordered : document.IsOrdered id) :
      extractFragment page elementId = document.firstInside? document.inOrder id := by
    rw [extractFragment_of_spells hspells]
    exact hordered.firstInside?_created
  refine ⟨?_, ?_, ?_⟩
  · intro elementId id hspells
    exact ⟨extractFragment_of_spells hspells page, hspelled hspells⟩
  · intro elementId hplain hordered
    exact hspelled (Selector.spells_self hplain) hordered
  · intro elementId front c rest helementId hfront hline
    rw [extractFragment, Selector.ofText?_idSelector_lineEnd helementId hfront hline]
    rfl

/-- A page with two elements of one id and with an id that has to be escaped. -/
theorem extractFragment_spelled_escaped :
    let page := "<p id=a>1<p id=a>2<i id='say \"a\"'>3</i>"
    extractFragment page "a" = some "1" ∧
      extractFragment page "say \\\"a\\22 " = some "3" ∧
      extractFragment page "a\n" = none := by
  intro page
  obtain ⟨hspelled, hplain, hline⟩ := extractFragment_spelled page
  refine ⟨?_, ?_, ?_⟩
  · have hletter : ∀ c ∈ "a".toList, Selector.isPlain c = true := List.forall_mem_singleton.2 rfl
    rw [hplain "a" hletter (by decide +kernel)]
    decide +kernel
  · have hspells : Selector.Spells "say \\\"a\\22 ".toList "say \"a\"".toList := by
      have hcode : Selector.IsCode ['2', '2'] :=
        ⟨by decide, by decide, List.forall_mem_cons.2 ⟨rfl, List.forall_mem_singleton.2 rfl⟩⟩
      have hend : Selector.Spells "\\22 ".toList ['"'] := .numberEnded hcode (.one rfl) .nil
      have hquote : Selector.Spells "\\\"a\\22 ".toList "\"a\"".toList :=
        .escaped rfl rfl (.plain (by decide) (by decide) rfl hend)
      exact .plain (by decide) (by decide) rfl (.plain (by decide) (by decide) rfl
        (.plain (by decide) (by decide) rfl (.plain (by decide) (by decide) rfl hquote)))
    rw [(hspelled _ _ hspells).2 (by decide +kernel)]
    decide +kernel
  · exact hline "a\n" ['a'] '\n' [] rfl (List.forall_mem_singleton.2 (by decide)) rfl

/-- An element with a quote in its id is missed, and a text that is no id of the page gives it. Of
two elements with one id the later one is found if it was created first, as a table is before an
element that cannot stand inside of it and so is put before it. -/
theorem extractFragment_misses_quoted :
    let quoted := "<i id='a\"b'>q</i>"
    let moved := "<table id=x><b id=x>c</b></table>"
    ((Html.Document.ofText quoted).firstInside? (Html.Document.ofText quoted).inOrder "a\"b" =
        some "q" ∧ extractFragment quoted "a\"b" = none) ∧
      ((Html.Document.ofText quoted).firstInside? (Html.Document.ofText quoted).inOrder "a\\\"b" =
        none ∧ extractFragment quoted "a\\\"b" = some "q") ∧
      (Html.Document.ofText moved).firstInside? (Html.Document.ofText moved).inOrder "x" =
        some "c" ∧ extractFragment moved "x" = some "" := by
  decide +kernel

end ClassroomClient
