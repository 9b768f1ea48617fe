/-
# Records from the members of any object

What an object says about a record is told here without the reader: a slot is a field with the
names and the values that a member may have for it, and a record reflects the members when every
slot holds what a member gives it, or else its default. A shape that matches its slots decodes every
object of well-typed members to the one record that reflects them, whatever stands between them and
in whatever order they stand, and refuses it when a slot is given twice.
-/

import ClassroomClient.Proofs.Json.Grammar
import ClassroomClient.Proofs.Json.Record
import Mathlib.Data.List.Forall2
import Mathlib.Data.List.Nodup
import Mathlib.Data.List.Pairwise
import Mathlib.Tactic.Choose

namespace ClassroomClient.Json

/-! ## Slots -/

/-- A field of a record as a member may give it. -/
structure Slot (σ : Type) where
  name : String
  /-- A second name that a member may have for it. -/
  alias? : Option String
  /-- What the field holds. -/
  Content : Type
  /-- The texts that are values of the field, with what each of them gives. -/
  spells : List Char → Content → Prop
  /-- What the field holds when no member gives it. -/
  default : Content
  get : σ → Content

/-- The names that a member may have for the field. -/
def Slot.names {σ : Type} (slot : Slot σ) : List String := slot.name :: slot.alias?.toList

/-- Whether a member of this name gives the field. -/
def Slot.IsNamed {σ : Type} (slot : Slot σ) (key : String) : Prop := key ∈ slot.names

/-- An object that makes up a body, with blanks wherever they may stand. -/
structure Body where
  front : Blanks
  opening : Blanks
  members : List Member
  back : Blanks

/-- The object with the blanks around it. -/
def Body.padded (body : Body) : Padded where
  front := body.front
  inner := spelledObject body.opening (body.members.map (·.toMemberText))
  back := body.back

/-- The text of the body. -/
def Body.text (body : Body) : String := String.ofList body.padded.text

variable {σ : Type}

section Members

variable (slots : List (Slot σ)) (members : List Member)

/-- Whether every member gives a field a value of its type, or has a name that belongs to no field
and any value. -/
def IsWellTyped : Prop :=
  ∀ member ∈ members,
    (∃ slot ∈ slots, slot.IsNamed member.key ∧
      ∃ content, slot.spells member.value.inner content) ∨
    (∀ slot ∈ slots, ¬ slot.IsNamed member.key) ∧ IsValue member.value.inner

/-- Whether no field is given by two members, be it under one name or under both. -/
def IsUnrepeated : Prop :=
  members.Pairwise fun member other =>
    ∀ slot ∈ slots, ¬ (slot.IsNamed member.key ∧ slot.IsNamed other.key)

/-- Whether every field holds what the member that gives it spells, or its default. -/
def IsReflected (record : σ) : Prop :=
  ∀ slot ∈ slots,
    (∀ member ∈ members, slot.IsNamed member.key →
      slot.spells member.value.inner (slot.get record)) ∧
    ((∀ member ∈ members, ¬ slot.IsNamed member.key) → slot.get record = slot.default)

end Members

/-- A shape decodes members as the slots tell: a body of well-typed members gives the one record
that reflects them, and it is refused when a field stands in it twice. -/
structure Shape.DecodesMembers (shape : Shape σ) (slots : List (Slot σ)) : Prop where
  decode_unrepeated : ∀ body : Body, IsWellTyped slots body.members →
    IsUnrepeated slots body.members →
      ∃ record, shape.decode body.text = .ok record ∧
        ∀ other, IsReflected slots body.members other ↔ other = record
  decode_repeated : ∀ body : Body, IsWellTyped slots body.members →
    ¬ IsUnrepeated slots body.members →
      ∃ slot ∈ slots, ¬ IsUnrepeated [slot] body.members ∧
        ∃ fault, shape.decode body.text = .error fault ∧
          fault.cause = .duplicateField slot.name

/-! ## Shapes and slots -/

/-- A field of a shape serves a slot when it goes by the same names, reads every text that spells a
content, and stores that content in the slot and in no other. -/
structure Slot.IsServedBy (slots : List (Slot σ)) (depth : Nat) (slot : Slot σ) (field : Field σ) :
    Prop where
  name_eq : field.name = slot.name
  alias_eq : field.alias? = slot.alias?
  optional : field.required = false
  skips : SkipsBlanks (field.read depth)
  reads : ∀ text content, slot.spells text content →
    ∃ update, Reads (field.read depth) text update ∧
      (∀ record, slot.get (update record) = content) ∧
      ∀ other ∈ slots, other.name ≠ slot.name →
        ∀ record, other.get (update record) = other.get record

/-- A shape matches slots when they stand for its fields one by one and make up the whole record. -/
structure Shape.Matches (shape : Shape σ) (slots : List (Slot σ)) : Prop where
  served : List.Forall₂ (Slot.IsServedBy slots 127) slots shape.fields
  distinct : (slots.flatMap Slot.names).Nodup
  blank : ∀ slot ∈ slots, slot.get shape.blank = slot.default
  ext : ∀ record other, (∀ slot ∈ slots, slot.get record = slot.get other) → record = other

namespace Shape.Matches

variable {shape : Shape σ} {slots : List (Slot σ)} (hmatches : shape.Matches slots)

include hmatches

/-- A name belongs to one slot at most. -/
theorem eq_of_isNamed {slot other : Slot σ} (hslot : slot ∈ slots) (hother : other ∈ slots)
    {key : String} (hnamed : slot.IsNamed key) (hagain : other.IsNamed key) : slot = other := by
  have : Std.Symm (Function.onFun List.Disjoint (@Slot.names σ)) :=
    ⟨fun _ _ hapart _ hmem hagain => hapart hagain hmem⟩
  have hapart := (List.nodup_flatMap.1 hmatches.distinct).2
  by_contra hne
  exact hapart.forall hslot hother hne hnamed hagain

theorem eq_of_name_eq {slot other : Slot σ} (hslot : slot ∈ slots) (hother : other ∈ slots)
    (hname : slot.name = other.name) : slot = other :=
  hmatches.eq_of_isNamed hslot hother List.mem_cons_self (hname ▸ List.mem_cons_self)

/-- A name is looked up in the shape as it is among the slots. -/
theorem field?_cases (key : String) :
    (∃ slot ∈ slots, slot.IsNamed key ∧
      ∃ field, shape.field? key = some field ∧ slot.IsServedBy slots 127 field) ∨
    (∀ slot ∈ slots, ¬ slot.IsNamed key) ∧ shape.field? key = none := by
  have hlookup (isNamed : Field σ → Bool) (hnamed : ∀ (slot : Slot σ) (field : Field σ),
        slot.IsServedBy slots 127 field → (isNamed field = true ↔ slot.IsNamed key))
      {part : List (Slot σ)} {fields : List (Field σ)}
      (hserved : List.Forall₂ (Slot.IsServedBy slots 127) part fields) :
      (∃ slot ∈ part, slot.IsNamed key ∧
        ∃ field, fields.find? isNamed = some field ∧ slot.IsServedBy slots 127 field) ∨
      (∀ slot ∈ part, ¬ slot.IsNamed key) ∧ fields.find? isNamed = none := by
    induction hserved with
    | nil => exact .inr ⟨nofun, rfl⟩
    | @cons slot field part fields hserves _ ih =>
        have hslot := hnamed slot field hserves
        by_cases hfound : isNamed field = true
        · exact .inl ⟨slot, List.mem_cons_self, hslot.1 hfound, field,
            List.find?_cons_of_pos hfound, hserves⟩
        · rw [List.find?_cons_of_neg hfound]
          rcases ih with ⟨other, hmem, hother⟩ | ⟨hnone, hfind⟩
          · exact .inl ⟨other, List.mem_cons_of_mem _ hmem, hother⟩
          · exact .inr ⟨List.forall_mem_cons.2 ⟨fun hkey => hfound (hslot.2 hkey), hnone⟩, hfind⟩
  refine hlookup _ (fun slot field hserves => ?_) hmatches.served
  rw [hserves.name_eq, hserves.alias_eq, Bool.or_eq_true, beq_iff_eq, beq_iff_eq, Slot.IsNamed,
    Slot.names, List.mem_cons, Option.mem_toList, eq_comm]

/-- The content that a text spells is the only one. -/
theorem content_unique {slot : Slot σ} (hslot : slot ∈ slots) {text : List Char}
    {content other : slot.Content} (hspells : slot.spells text content)
    (hagain : slot.spells text other) : content = other := by
  rcases hmatches.field?_cases slot.name with
    ⟨slot', hslot', hnamed, field, -, hserves⟩ | ⟨hnone, -⟩
  · obtain rfl := hmatches.eq_of_isNamed hslot hslot' List.mem_cons_self hnamed
    obtain ⟨update, hreads, hget, -⟩ := hserves.reads text content hspells
    obtain ⟨update', hreads', hget', -⟩ := hserves.reads text other hagain
    have htakes := (hreads.takes [] isDelimited_nil).symm.trans (hreads'.takes [] isDelimited_nil)
    obtain rfl := (Prod.mk.inj (Except.ok.inj htakes)).1
    rw [← hget shape.blank, hget']
  · exact absurd List.mem_cons_self (hnone slot hslot)

/-- Members determine what a slot holds. -/
theorem get_unique {members : List Member} {record other : σ} {slot : Slot σ} (hslot : slot ∈ slots)
    (hrecord : IsReflected slots members record) (hother : IsReflected slots members other) :
    slot.get record = slot.get other := by
  by_cases hgiven : ∃ member ∈ members, slot.IsNamed member.key
  · obtain ⟨member, hmem, hnamed⟩ := hgiven
    exact hmatches.content_unique hslot ((hrecord slot hslot).1 member hmem hnamed)
      ((hother slot hslot).1 member hmem hnamed)
  · have hnone : ∀ member ∈ members, ¬ slot.IsNamed member.key := fun member hmem hnamed =>
      hgiven ⟨member, hmem, hnamed⟩
    rw [(hrecord slot hslot).2 hnone, (hother slot hslot).2 hnone]

/-- No field of the shape is required. -/
theorem optional : ∀ field ∈ shape.fields, field.required = false := by
  have hall {part : List (Slot σ)} {fields : List (Field σ)}
      (hserved : List.Forall₂ (Slot.IsServedBy slots 127) part fields) :
      ∀ field ∈ fields, field.required = false := by
    induction hserved with
    | nil => exact nofun
    | cons hserves _ ih => exact List.forall_mem_cons.2 ⟨hserves.optional, ih⟩
  exact hall hmatches.served

end Shape.Matches

/-! ## Members and their effects -/

/-- What a well-typed member does to a record: it gives the slot that it names its content and
leaves all others as they are. -/
structure Effect.IsGivenBy (shape : Shape σ) (slots : List (Slot σ)) (member : Member)
    (effect : Effect σ) : Prop where
  takes : shape.Takes 127 member effect
  stores : ∀ name ∈ effect.field?, ∃ slot ∈ slots, slot.IsNamed member.key ∧ slot.name = name
  named : ∀ slot ∈ slots, slot.IsNamed member.key → effect.field? = some slot.name ∧
    ∀ record, slot.spells member.value.inner (slot.get (effect.apply record))
  unnamed : ∀ slot ∈ slots, ¬ slot.IsNamed member.key →
    ∀ record, slot.get (effect.apply record) = slot.get record

section Effects

variable {shape : Shape σ} {slots : List (Slot σ)}

theorem Shape.Matches.exists_effect (hmatches : shape.Matches slots) {members : List Member}
    (htyped : IsWellTyped slots members) :
    ∀ member ∈ members, ∃ effect, Effect.IsGivenBy shape slots member effect := by
  intro member hmem
  rcases hmatches.field?_cases member.key with
    ⟨slot, hslot, hnamed, field, hknown, hserves⟩ | ⟨hnone, hunknown⟩
  · have hspells : ∃ content, slot.spells member.value.inner content := by
      rcases htyped member hmem with ⟨other, hother, hagain, hspells⟩ | ⟨hnone, -⟩
      · rwa [hmatches.eq_of_isNamed hslot hother hnamed hagain]
      · exact absurd hnamed (hnone slot hslot)
    obtain ⟨content, hspells⟩ := hspells
    obtain ⟨update, hreads, hget, hothers⟩ := hserves.reads _ content hspells
    refine ⟨.stores field.name update, .stores hknown fun rest hrest =>
      hreads.takes_padded hserves.skips hrest, ?_, ?_, ?_⟩
    · rintro name ⟨⟩
      exact ⟨slot, hslot, hnamed, hserves.name_eq.symm⟩
    · intro other hother hagain
      obtain rfl := hmatches.eq_of_isNamed hslot hother hnamed hagain
      refine ⟨congrArg some hserves.name_eq, fun record => ?_⟩
      rw [Effect.apply, hget]
      exact hspells
    · intro other hother hunnamed record
      refine hothers other hother (fun hname => hunnamed ?_) record
      rwa [hmatches.eq_of_name_eq hother hslot hname]
  · have hvalue : IsValue member.value.inner := by
      rcases htyped member hmem with ⟨slot, hslot, hnamed, -⟩ | ⟨-, hvalue⟩
      · exact absurd hnamed (hnone slot hslot)
      · exact hvalue
    exact ⟨.passed, .passed hunknown fun rest hrest => hvalue.skipValue hrest, nofun,
      fun slot hslot hnamed => absurd hnamed (hnone slot hslot), fun _ _ _ _ => rfl⟩

/-- Well-typed members can be told with their effects. -/
theorem Shape.Matches.exists_effects (hmatches : shape.Matches slots) {members : List Member}
    (htyped : IsWellTyped slots members) :
    ∃ taken : List (Member × Effect σ), taken.map (·.1) = members ∧
      ∀ member ∈ taken, Effect.IsGivenBy shape slots member.1 member.2 := by
  have : Nonempty (Effect σ) := ⟨.passed⟩
  choose! effect heffect using hmatches.exists_effect htyped
  exact ⟨members.map fun member => (member, effect member), by simp [Function.comp_def],
    List.forall_mem_map.2 heffect⟩

variable {taken : List (Member × Effect σ)}
  (htaken : ∀ member ∈ taken, Effect.IsGivenBy shape slots member.1 member.2)

include htaken

/-- Members that give no slot twice store no field twice. -/
theorem nodup_storedFields (hmatches : shape.Matches slots)
    (hunrepeated : IsUnrepeated slots (taken.map (·.1))) : (storedFields taken).Nodup := by
  rw [IsUnrepeated, List.pairwise_map] at hunrepeated
  refine List.pairwise_filterMap.2 (hunrepeated.imp_of_mem ?_)
  rintro member other hmem hother hapart name hname _ hagain rfl
  obtain ⟨slot, hslot, hnamed, rfl⟩ := (htaken member hmem).stores name hname
  obtain ⟨slot', hslot', hnamed', hsame⟩ := (htaken other hother).stores _ hagain
  obtain rfl := hmatches.eq_of_name_eq hslot' hslot hsame
  exact hapart _ hslot ⟨hnamed, hnamed'⟩

/-- A slot keeps its content while no member gives it another. -/
theorem get_store_of_unnamed {slot : Slot σ} (hslot : slot ∈ slots)
    (hunnamed : ∀ member ∈ taken, ¬ slot.IsNamed member.1.key) (record : σ) :
    slot.get (store record taken) = slot.get record := by
  induction taken generalizing record with
  | nil => rfl
  | cons member taken ih =>
      rw [store, List.foldl_cons, ← store,
        ih (fun other hmem => htaken other (List.mem_cons_of_mem _ hmem))
          (fun other hmem => hunnamed other (List.mem_cons_of_mem _ hmem))]
      exact (htaken member List.mem_cons_self).unnamed slot hslot
        (hunnamed member List.mem_cons_self) record

/-- The record after all members have made their changes reflects them. -/
theorem isReflected_store (hunrepeated : IsUnrepeated slots (taken.map (·.1)))
    (hblank : ∀ slot ∈ slots, slot.get shape.blank = slot.default) :
    IsReflected slots (taken.map (·.1)) (store shape.blank taken) := by
  intro slot hslot
  constructor
  · rw [List.forall_mem_map]
    intro member hmem hnamed
    obtain ⟨front, back, rfl⟩ := List.append_of_mem hmem
    rw [IsUnrepeated, List.pairwise_map, List.pairwise_append, List.pairwise_cons] at hunrepeated
    have hlater : ∀ other ∈ back, ¬ slot.IsNamed other.1.key := fun other hother hagain =>
      hunrepeated.2.1.1 other hother slot hslot ⟨hnamed, hagain⟩
    rw [store, List.foldl_append, List.foldl_cons, ← store, ← store,
      get_store_of_unnamed (fun other hother => htaken other (by simp [hother])) hslot hlater]
    exact ((htaken member hmem).named slot hslot hnamed).2 _
  · rw [List.forall_mem_map]
    intro hunnamed
    rw [get_store_of_unnamed htaken hslot hunnamed, hblank slot hslot]

end Effects

/-- Where a list first has an element that does not go with one before it. -/
theorem exists_first_of_not_pairwise {α : Type} {apart : α → α → Prop} {items : List α}
    (hnot : ¬ items.Pairwise apart) :
    ∃ front again back, items = front ++ again :: back ∧ front.Pairwise apart ∧
      ∃ item ∈ front, ¬ apart item again := by
  induction items using List.reverseRecOn with
  | nil => exact absurd .nil hnot
  | append_singleton items last ih =>
      by_cases hfront : items.Pairwise apart
      · refine ⟨items, last, [], rfl, hfront, ?_⟩
        by_contra hall
        push Not at hall
        have hlast : ∀ item ∈ items, ∀ other ∈ [last], apart item other := by simpa using hall
        exact hnot (List.pairwise_append.2 ⟨hfront, List.pairwise_singleton _ _, hlast⟩)
      · obtain ⟨front, again, back, rfl, hrest⟩ := ih hfront
        exact ⟨front, again, back ++ [last], by simp, hrest⟩

/-! ## Decoding -/

/-- A shape that matches its slots decodes members as they tell. -/
theorem Shape.Matches.decodesMembers {shape : Shape σ} {slots : List (Slot σ)}
    (hmatches : shape.Matches slots) : shape.DecodesMembers slots where
  decode_unrepeated body htyped hunrepeated := by
    obtain ⟨taken, htext, htaken⟩ := hmatches.exists_effects htyped
    rw [← htext] at hunrepeated
    have hreflected := isReflected_store htaken hunrepeated hmatches.blank
    have hreads := reads_spelledObject (fun member hmem => (htaken member hmem).takes)
      (nodup_storedFields htaken hmatches hunrepeated)
      (fun field hmem hrequired => absurd hrequired (by simp [hmatches.optional field hmem]))
      body.opening
    have hinner : spelledObject body.opening (taken.map (·.1.toMemberText)) =
        body.padded.inner := by
      rw [Body.padded, ← htext, List.map_map]
      rfl
    rw [hinner] at hreads
    rw [htext] at hreflected
    refine ⟨store shape.blank taken, decode_padded hreads, fun other => ⟨fun hother => ?_, ?_⟩⟩
    · exact hmatches.ext _ _ fun slot hslot => hmatches.get_unique hslot hother hreflected
    · rintro rfl
      exact hreflected
  decode_repeated body htyped hrepeated := by
    obtain ⟨front, again, others, hbody, hdistinct, member, hmem, hsame⟩ :=
      exists_first_of_not_pairwise hrepeated
    push Not at hsame
    obtain ⟨slot, hslot, hnamed, hagain⟩ := hsame
    have hfront : IsWellTyped slots front := fun other hother =>
      htyped other (by simp [hbody, hother])
    obtain ⟨taken, rfl, htaken⟩ := hmatches.exists_effects hfront
    obtain ⟨given, hgiven, rfl⟩ := List.mem_map.1 hmem
    rcases hmatches.field?_cases again.key with
      ⟨slot', hslot', hnamed', field, hknown, hserves⟩ | ⟨hnone, -⟩
    · obtain rfl := hmatches.eq_of_isNamed hslot hslot' hagain hnamed'
      have hstored : field.name ∈ storedFields taken := by
        rw [hserves.name_eq]
        exact List.mem_filterMap.2
          ⟨given, hgiven, ((htaken given hgiven).named slot hslot hnamed).1⟩
      obtain ⟨text, hread⟩ := read_repeated (fun member hmem => (htaken member hmem).takes)
        (nodup_storedFields htaken hmatches hdistinct) hknown hstored others body.opening
        body.back.text
      have hrepeated : ¬ IsUnrepeated [slot] body.members := by
        rw [hbody, IsUnrepeated, List.pairwise_append]
        exact fun ⟨_, _, hall⟩ => hall given.1 hmem again List.mem_cons_self slot
          (List.mem_singleton_self slot) ⟨hnamed, hagain⟩
      rw [← hbody] at hread
      exact ⟨slot, hslot, hrepeated, _, decode_padded_of_error hread,
        congrArg Cause.duplicateField hserves.name_eq⟩
    · exact absurd hagain (hnone slot hslot)

end ClassroomClient.Json
