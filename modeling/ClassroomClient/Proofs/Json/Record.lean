/-
# Records read from objects

A record is read from an object member by member: one that has the name of a field changes the
record, any other is passed over. What the members change is all that matters, so as long as no
field stands twice and no required one is missing, they can stand in any order with any blanks
between them. A field that stands twice is refused wherever it does. The object that is written of a
record, one member for each of its fields, is one such object.
-/

import ClassroomClient.Proofs.Json.Written

namespace ClassroomClient.Json

variable {σ : Type}

/-! ## Members and what they change -/

/-- What a member changes in a record: it stores the value of a field, or it is passed over. -/
inductive Effect (σ : Type)
  | stores (field : String) (update : σ → σ)
  | passed

namespace Effect

/-- The field of which a value is stored. -/
def field? : Effect σ → Option String
  | stores field _ => some field
  | passed => none

/-- The record after the change. -/
def apply : Effect σ → σ → σ
  | stores _ update, record => update record
  | passed, record => record

end Effect

/-- The fields that members store, in their order. -/
def storedFields (members : List (Member × Effect σ)) : List String :=
  members.filterMap (·.2.field?)

/-- The record after all members have made their changes, in their order. -/
def store (record : σ) (members : List (Member × Effect σ)) : σ :=
  members.foldl (fun record member => member.2.apply record) record

theorem storedFields_cons (member : Member × Effect σ) (members : List (Member × Effect σ)) :
    storedFields (member :: members) = member.2.field?.toList ++ storedFields members := by
  rw [storedFields, List.filterMap_cons]
  cases member.2.field? <;> rfl

namespace Shape

variable {shape : Shape σ} {depth : Nat}

/-- How a shape takes a member: by its name it finds the field and reads the value, or it finds no
field and passes over the value. -/
inductive Takes (shape : Shape σ) (depth : Nat) (member : Member) : Effect σ → Prop
  | stores {field : Field σ} {update : σ → σ} (hknown : shape.field? member.key = some field)
      (hread : ∀ rest, IsDelimited rest → field.read depth (member.value.text ++ rest) =
        .ok (update, member.value.back.text ++ rest)) :
      Takes shape depth member (.stores field.name update)
  | passed (hunknown : shape.field? member.key = none)
      (hskip : ∀ rest, IsDelimited rest →
        skipValue (member.value.text ++ rest) = .ok (member.value.back.text ++ rest)) :
      Takes shape depth member .passed

/-- A member without a field is passed over. -/
theorem readMembersInto_of_unknown {member : Member} (hunknown : shape.field? member.key = none)
    (fuel : Nat) (first : Bool) (seen : List String) (record : σ) (blanks : Blanks)
    (texts : List (List Char)) (rest : List Char) :
    shape.readMembersInto depth (fuel + 1) first seen record
        (blanks.text ++ (continued first (member.text :: texts) ++ '\x7d' :: rest)) =
      skipValue (member.value.text ++ (continued false texts ++ '\x7d' :: rest)) >>=
        shape.readMembersInto depth fuel false seen record := by
  rw [readMembersInto, nextMember_blanks, nextMember_continued]
  simp only [bind, Except.bind, if_true, readName_of_spells member.spells, readColon_blanks,
    hunknown]

/-- The value of a member with a field is read, unless the field was seen before. -/
theorem readMembersInto_of_known {member : Member} {field : Field σ}
    (hknown : shape.field? member.key = some field) (fuel : Nat) (first : Bool)
    (seen : List String) (record : σ) (blanks : Blanks) (texts : List (List Char))
    (rest : List Char) :
    shape.readMembersInto depth (fuel + 1) first seen record
        (blanks.text ++ (continued first (member.text :: texts) ++ '\x7d' :: rest)) =
      if field.name ∈ seen then
        .error (.before (.duplicateField field.name) (afterBrace (member.gap.text ++ ':' ::
          (member.value.text ++ (continued false texts ++ '\x7d' :: rest)))))
      else
        field.read depth (member.value.text ++ (continued false texts ++ '\x7d' :: rest)) >>=
          fun (update, text) =>
            shape.readMembersInto depth fuel false (field.name :: seen) (update record) text := by
  rw [readMembersInto, nextMember_blanks, nextMember_continued]
  simp only [bind, Except.bind, if_true, readName_of_spells member.spells, readColon_blanks,
    hknown, List.contains_iff_mem]

section Members

variable {members : List (Member × Effect σ)} {seen : List String}

/-- One member changes the record as it should, unless its field was seen before. -/
theorem readMembersInto_step {member : Member} {effect : Effect σ}
    (htakes : shape.Takes depth member effect) (hnew : ∀ field ∈ effect.field?, field ∉ seen)
    (fuel : Nat) (first : Bool) (record : σ) (blanks : Blanks) (texts : List (List Char))
    (rest : List Char) :
    shape.readMembersInto depth (fuel + 1) first seen record
        (blanks.text ++ (continued first (member.text :: texts) ++ '\x7d' :: rest)) =
      shape.readMembersInto depth fuel false (effect.field?.toList ++ seen) (effect.apply record)
        (member.value.back.text ++ (continued false texts ++ '\x7d' :: rest)) := by
  have hrest := isDelimited_continued texts (.inr rfl) rest
  cases htakes with
  | stores hknown hread =>
      rw [readMembersInto_of_known hknown, if_neg (hnew _ rfl), hread _ hrest]
      rfl
  | passed hunknown hskip =>
      rw [readMembersInto_of_unknown hunknown, hskip _ hrest]
      rfl

/-- Members of which no field is seen before are taken one after the other, whatever follows
them. -/
theorem exists_readMembersInto (htakes : ∀ member ∈ members, shape.Takes depth member.1 member.2)
    (hdistinct : (storedFields members).Nodup)
    (hunseen : ∀ field ∈ storedFields members, field ∉ seen)
    (fuel : Nat) (first : Bool) (record : σ) (blanks : Blanks) (texts : List (List Char))
    (rest : List Char) :
    ∃ first' seen' blanks',
      (∀ field, field ∈ seen' ↔ field ∈ storedFields members ∨ field ∈ seen) ∧
      shape.readMembersInto depth (fuel + members.length) first seen record
          (blanks.text ++
            (continued first (members.map (·.1.text) ++ texts) ++ '\x7d' :: rest)) =
        shape.readMembersInto depth fuel first' seen' (store record members)
          (Blanks.text blanks' ++ (continued first' texts ++ '\x7d' :: rest)) := by
  induction members generalizing first seen record blanks with
  | nil => exact ⟨first, seen, blanks, by simp [storedFields], rfl⟩
  | cons member members ih =>
      rw [storedFields_cons] at hdistinct hunseen
      obtain ⟨-, hdistinct, hapart⟩ := List.nodup_append.1 hdistinct
      have hlater : ∀ field ∈ storedFields members, field ∉ member.2.field?.toList ++ seen := by
        intro field hfield hmem
        rcases List.mem_append.1 hmem with hmember | hmem
        · exact hapart field hmember field hfield rfl
        · exact hunseen field (List.mem_append_right _ hfield) hmem
      obtain ⟨first', seen', blanks', hseen, hrun⟩ :=
        ih (fun other hmem => htakes other (List.mem_cons_of_mem _ hmem)) hdistinct hlater false
          (member.2.apply record) member.1.value.back
      refine ⟨first', seen', blanks', ?_, ?_⟩
      · intro field
        rw [hseen, storedFields_cons, List.mem_append, List.mem_append]
        tauto
      · rw [List.map_cons, List.cons_append, List.length_cons, ← Nat.add_assoc,
          readMembersInto_step (htakes member List.mem_cons_self)
            (fun field hfield => hunseen field (List.mem_append_left _ (by simpa using hfield)))]
        exact hrun

/-- At the closing brace the record is complete, as long as no required field is missing. -/
theorem readMembersInto_close (hrequired : ∀ field ∈ shape.fields, field.required = true →
      field.name ∈ seen) (fuel : Nat) (first : Bool) (record : σ) (blanks : Blanks)
    (rest : List Char) :
    shape.readMembersInto depth (fuel + 1) first seen record
        (blanks.text ++ (continued first [] ++ '\x7d' :: rest)) =
      .ok (record, '\x7d' :: rest) := by
  have hcomplete : shape.checkRequired seen ('\x7d' :: rest) = .ok () := by
    have hnone : shape.fields.find?
        (fun field => field.required && !seen.contains field.name) = none := by
      rw [List.find?_eq_none]
      intro field hmem
      simpa using hrequired field hmem
    rw [checkRequired, hnone]
  rw [continued_nil, List.nil_append, readMembersInto, nextMember_blanks, nextMember_close]
  simp only [bind, Except.bind, Bool.false_eq_true, if_false, hcomplete]
  rfl

end Members

/-! ## Objects -/

theorem read_object (shape : Shape σ) (depth : Nat) (blanks : Blanks) (members : List Member)
    (rest : List Char) :
    shape.read (depth + 2)
        (spelledObject blanks (members.map (·.toMemberText)) ++ rest) =
      (shape.readMembersInto (depth + 1)
        ((blanks.text ++ (continued true (members.map (·.text)) ++ '\x7d' :: rest)).length + 1)
        true [] shape.blank
        (blanks.text ++ (continued true (members.map (·.text)) ++ '\x7d' :: rest))).map
          fun (record, rest) => (record, rest.tail) := by
  have htext : spelledObject blanks (members.map (·.toMemberText)) ++ rest =
      '\x7b' :: (blanks.text ++ (continued true (members.map (·.text)) ++ '\x7d' :: rest)) := by
    simp [spelledObject, continued_true, Function.comp_def]
  rw [htext, Shape.read, skipSpace_cons rfl]
  cases hread : shape.readMembersInto (depth + 1)
    ((blanks.text ++ (continued true (members.map (·.text)) ++ '\x7d' :: rest)).length + 1)
    true [] shape.blank
    (blanks.text ++ (continued true (members.map (·.text)) ++ '\x7d' :: rest)) with
  | error fault =>
      simp only [bind, Except.bind, hread]
      rfl
  | ok result =>
      simp only [bind, Except.bind, hread]
      rfl

/-- The fuel of an object is more than its members. -/
theorem exists_fuel (blanks : Blanks) (members : List Member) (rest : List Char) :
    ∃ fuel, (blanks.text ++ (continued true (members.map (·.text)) ++ '\x7d' :: rest)).length + 1 =
      fuel + 1 + members.length := by
  have hlength := length_le_length_continued true (members.map (·.text))
    (List.forall_mem_map.2 fun member _ => member.text_ne_nil)
  rw [List.length_map] at hlength
  refine ⟨(blanks.text ++ (continued true (members.map (·.text)) ++ '\x7d' :: rest)).length -
    members.length, ?_⟩
  simp only [List.length_append, List.length_cons]
  omega

section Object

variable {members : List (Member × Effect σ)}

/-- A record is read from an object in which no field stands twice and no required one is missing:
it is the blank record with the changes of all members. -/
theorem reads_spelledObject
    (htakes : ∀ member ∈ members, shape.Takes (depth + 1) member.1 member.2)
    (hdistinct : (storedFields members).Nodup)
    (hrequired : ∀ field ∈ shape.fields, field.required = true → field.name ∈ storedFields members)
    (blanks : Blanks) :
    Reads (shape.read (depth + 2)) (spelledObject blanks (members.map (·.1.toMemberText)))
      (store shape.blank members) where
  opens := ⟨'\x7b', _, rfl, rfl, by decide⟩
  takes rest _ := by
    obtain ⟨fuel, hfuel⟩ := exists_fuel blanks (members.map (·.1)) rest
    obtain ⟨first, seen, blanks', hseen, hrun⟩ := exists_readMembersInto htakes hdistinct
      (fun _ _ => List.not_mem_nil) (fuel + 1) true shape.blank blanks [] rest
    have hclose := @readMembersInto_close _ shape (depth + 1) seen
      (fun field hmem hfield => (hseen field.name).2 (.inl (hrequired field hmem hfield)))
      fuel first (store shape.blank members) blanks' rest
    have hobject := shape.read_object depth blanks (members.map (·.1)) rest
    rw [List.length_map] at hfuel
    rw [List.append_nil] at hrun
    simp only [List.map_map, Function.comp_def] at hfuel hobject
    rw [hobject, hfuel, hrun, hclose]
    rfl

/-- An object in which a field stands twice is refused as soon as it stands there again, whatever
follows. -/
theorem read_repeated {again : Member} {field : Field σ}
    (htakes : ∀ member ∈ members, shape.Takes (depth + 1) member.1 member.2)
    (hdistinct : (storedFields members).Nodup) (hknown : shape.field? again.key = some field)
    (hagain : field.name ∈ storedFields members) (others : List Member) (blanks : Blanks)
    (rest : List Char) :
    ∃ text, shape.read (depth + 2)
        (spelledObject blanks ((members.map (·.1) ++ again :: others).map (·.toMemberText)) ++
          rest) = .error (.before (.duplicateField field.name) text) := by
  obtain ⟨fuel, hfuel⟩ := exists_fuel blanks (members.map (·.1) ++ again :: others) rest
  obtain ⟨first, seen, blanks', hseen, hrun⟩ := exists_readMembersInto htakes hdistinct
    (fun _ _ => List.not_mem_nil) (fuel + 1 + others.length + 1) true shape.blank blanks
    ((again :: others).map (·.text)) rest
  have hlength : fuel + 1 + (members.map (·.1) ++ again :: others).length =
      fuel + 1 + others.length + 1 + members.length := by
    simp only [List.length_append, List.length_map, List.length_cons]
    omega
  rw [List.map_cons] at hrun
  refine ⟨afterBrace (again.gap.text ++ ':' :: (again.value.text ++
    (continued false (others.map (·.text)) ++ '\x7d' :: rest))), ?_⟩
  rw [read_object, hfuel, hlength, List.map_append, List.map_map, List.map_cons]
  simp only [Function.comp_def]
  rw [hrun, readMembersInto_of_known hknown, if_pos ((hseen field.name).2 (.inl hagain))]
  rfl

end Object

end Shape

/-! ## Objects that are written -/

/-- A written field: the text of its value and what that changes in the record. -/
structure WrittenField (σ : Type) where
  field : Field σ
  value : List Char
  update : σ → σ

namespace WrittenField

/-- The name of the field. -/
abbrev name (written : WrittenField σ) : String := written.field.name

/-- The member that stands for the field in an object. -/
def text (written : WrittenField σ) : List Char :=
  memberText written.name written.value

/-- The member with its effect. -/
def member (written : WrittenField σ) : Member × Effect σ :=
  (.bare written.name written.value, .stores written.name written.update)

/-- Whether a shape reads the field from its member. -/
structure IsRead (shape : Shape σ) (depth : Nat) (written : WrittenField σ) : Prop where
  known : shape.field? written.name = some written.field
  reads : Reads (written.field.read depth) written.value written.update

theorem IsRead.takes {shape : Shape σ} {depth : Nat} {written : WrittenField σ}
    (hread : written.IsRead shape depth) :
    shape.Takes depth written.member.1 written.member.2 :=
  .stores hread.known fun rest hrest => by
    simpa [member, Member.bare, Padded.bare, Padded.text, Blanks.none] using
      hread.reads.takes rest hrest

end WrittenField

section Fields

variable {α : Type} (name : String) {read : Nat → Reader α} (set : α → σ → σ) {depth : Nat}

/-- A field that stores its value reads the value and nothing else. -/
theorem Field.read_of (text : List Char) : (Field.of name read set).read depth text =
    (read depth text).map fun found => (set found.1, found.2) := by
  cases hread : read depth text with
  | error fault =>
      simp only [Field.of, bind, Except.bind, hread]
      rfl
  | ok found =>
      simp only [Field.of, bind, Except.bind, hread]
      rfl

theorem Field.skipsBlanks_of (hskips : SkipsBlanks (read depth)) :
    SkipsBlanks ((Field.of name read set).read depth) := by
  intro text
  rw [Field.read_of, Field.read_of, hskips]

end Fields

/-- A field that stores its value is read as soon as its value is. -/
theorem Reads.field {α : Type} (name : String) (read : Nat → Reader α) (set : α → σ → σ)
    (depth : Nat) {text : List Char} {value : α} (hreads : Reads (read depth) text value) :
    Reads ((Field.of name read set).read depth) text (set value) where
  opens := hreads.opens
  takes rest hrest := by
    rw [Field.read_of, hreads.takes rest hrest]
    rfl

namespace Shape

variable {shape : Shape σ} {depth : Nat} {fields : List (WrittenField σ)}

/-- The record after all written fields have made their changes, in their order. -/
def storeWritten (record : σ) (fields : List (WrittenField σ)) : σ :=
  fields.foldl (fun record written => written.update record) record

/-- A record is read back from the object of its written fields. -/
theorem reads_objectText (hread : ∀ written ∈ fields, written.IsRead shape (depth + 1))
    (hdistinct : (fields.map WrittenField.name).Nodup)
    (hrequired : ∀ field ∈ shape.fields, field.required = true →
      field.name ∈ fields.map WrittenField.name) :
    Reads (shape.read (depth + 2)) (objectText (fields.map WrittenField.text))
      (storeWritten shape.blank fields) := by
  have hnames : storedFields (fields.map WrittenField.member) = fields.map WrittenField.name := by
    simp [storedFields, WrittenField.member, Effect.field?, Function.comp_def]
  have hreads := reads_spelledObject
    (List.forall_mem_map.2 fun written hmem => (hread written hmem).takes)
    (by rwa [hnames]) (by rwa [hnames]) .none
  have hstore : store shape.blank (fields.map WrittenField.member) =
      storeWritten shape.blank fields := List.foldl_map
  rw [hstore, List.map_map] at hreads
  exact (objectText_eq WrittenField.name WrittenField.value fields).symm ▸ hreads

/-- What is decoded was read from the front of the text. -/
theorem exists_read_of_decode {text : String} {record : σ}
    (hdecode : shape.decode text = .ok record) :
    ∃ rest, shape.read maxDepth text.toList = .ok (record, rest) := by
  obtain ⟨⟨record, rest⟩, hread, hdecode⟩ := exists_of_bind hdecode
  dsimp only at hdecode
  split at hdecode
  · cases hdecode
    exact ⟨rest, hread⟩
  · cases hdecode

theorem skipsBlanks_read (shape : Shape σ) (depth : Nat) : SkipsBlanks (shape.read depth) := by
  intro text
  unfold Shape.read
  rw [skipSpace_skipSpace]

/-- A whole text is decoded when the shape reads it, with blanks around it or without. -/
theorem decode_padded {padded : Padded} {record : σ}
    (hreads : Reads (shape.read maxDepth) padded.inner record) :
    shape.decode (String.ofList padded.text) = .ok record := by
  have htakes := hreads.takes_padded (shape.skipsBlanks_read maxDepth) isDelimited_nil
  have hblank : skipSpace (padded.back.text ++ []) = [] := skipSpace_blanks padded.back []
  rw [List.append_nil] at htakes
  simp only [decode, readWhole, bind, Except.bind, String.toList_ofList, htakes, hblank]
  rfl

theorem decode_of_reads {text : List Char} {record : σ}
    (hreads : Reads (shape.read maxDepth) text record) :
    shape.decode (String.ofList text) = .ok record := by
  rw [← Padded.text_bare text]
  exact decode_padded hreads

/-- What is refused is refused behind blanks as well. -/
theorem decode_padded_of_error {padded : Padded} {fault : Fault}
    (hread : shape.read maxDepth (padded.inner ++ padded.back.text) = .error fault) :
    shape.decode (String.ofList padded.text) = .error fault := by
  have hpadded : shape.read maxDepth padded.text = .error fault := by
    rw [Padded.text, (shape.skipsBlanks_read maxDepth).blanks]
    exact hread
  simp only [decode, readWhole, bind, Except.bind, String.toList_ofList, hpadded]

/-! ## What every record that is read satisfies -/

section Holds

variable (holds : σ → Prop) {record result : σ} {text rest : List Char}

theorem holds_of_readMembersInto
    (hfields : ∀ field ∈ shape.fields, ∀ text update rest,
      field.read depth text = .ok (update, rest) → ∀ record, holds record → holds (update record))
    (hrecord : holds record) {fuel : Nat} {first : Bool} {seen : List String}
    (hread : shape.readMembersInto depth fuel first seen record text = .ok (result, rest)) :
    holds result := by
  induction fuel generalizing first seen record text with
  | zero => cases hread
  | succ fuel ih =>
      obtain ⟨⟨more, text⟩, -, hread⟩ := exists_of_bind hread
      cases more with
      | false =>
          obtain ⟨_, -, hread⟩ := exists_of_bind hread
          cases hread
          exact hrecord
      | true =>
          obtain ⟨⟨name, text⟩, -, hread⟩ := exists_of_bind hread
          dsimp only at hread
          split at hread
          · obtain ⟨text, -, hread⟩ := exists_of_bind hread
            obtain ⟨text, -, hread⟩ := exists_of_bind hread
            exact ih hrecord hread
          · next field hfield =>
            split at hread
            · cases hread
            · obtain ⟨text, -, hread⟩ := exists_of_bind hread
              obtain ⟨⟨update, text⟩, hupdate, hread⟩ := exists_of_bind hread
              exact ih (hfields field (List.mem_of_find?_eq_some hfield) _ _ _ hupdate _ hrecord)
                hread

theorem holds_of_readItemsInto {left : List (Field σ)}
    (hfields : ∀ field ∈ left, ∀ text update rest,
      field.read depth text = .ok (update, rest) → ∀ record, holds record → holds (update record))
    (hrecord : holds record) {index : Nat}
    (hread : shape.readItemsInto depth left index record text = .ok (result, rest)) :
    holds result := by
  induction left generalizing index record text with
  | nil =>
      cases hread
      exact hrecord
  | cons field left ih =>
      obtain ⟨⟨more, text⟩, -, hread⟩ := exists_of_bind hread
      cases more with
      | false =>
          dsimp only at hread
          split at hread
          · next hmore => cases hmore
          · split at hread
            · cases hread
              exact hrecord
            · cases hread
      | true =>
          obtain ⟨⟨update, text⟩, hupdate, hread⟩ := exists_of_bind hread
          exact ih (fun other hmem => hfields other (List.mem_cons_of_mem _ hmem))
            (hfields field List.mem_cons_self _ _ _ hupdate _ hrecord) hread

/-- What holds of the blank record and is kept by every field that is read holds of every record
that is read, be it from an object or from an array. -/
theorem holds_of_read
    (hfields : ∀ field ∈ shape.fields, ∀ text update rest,
      field.read (depth + 1) text = .ok (update, rest) →
        ∀ record, holds record → holds (update record))
    (hblank : holds shape.blank) (hread : shape.read (depth + 2) text = .ok (result, rest)) :
    holds result := by
  unfold read at hread
  split at hread
  · cases hread
  · split at hread
    · obtain ⟨⟨record, text⟩, hitems, hread⟩ := exists_of_bind hread
      obtain ⟨_, -, hread⟩ := exists_of_bind hread
      cases hread
      exact holds_of_readItemsInto holds hfields hblank hitems
    · split at hread
      · obtain ⟨⟨record, text⟩, hmembers, hread⟩ := exists_of_bind hread
        cases hread
        exact holds_of_readMembersInto holds hfields hblank hmembers
      · cases hread

end Holds

end Shape

end ClassroomClient.Json
