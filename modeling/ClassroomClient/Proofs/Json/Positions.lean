/-
# Records by position and by name

An array gives the fields of a record in their order, an object gives them under their names. Two
readers take the two forms. Where all fields may be left out, both do the same: the values that are
there go to the first fields, each is read as its field wants it, and the fields that are left keep
what the blank record holds. So an array is decoded exactly when the object of the same values is,
and to the same record, whether or not the values are of the kinds that are wanted.
-/

import ClassroomClient.Proofs.Json.Members
import ClassroomClient.Proofs.Json.Settled

namespace ClassroomClient.Json

variable {σ : Type}

/-! ## Fields that are filled -/

/-- What becomes of a record when values are given to fields in their order. The fields that are
left are not changed. -/
inductive Fills (depth : Nat) : List (Field σ) → List (List Char) → σ → σ → Prop
  | done {fields : List (Field σ)} {record : σ} : Fills depth fields [] record record
  | field {field : Field σ} {fields : List (Field σ)} {text : List Char}
      {texts : List (List Char)} {update : σ → σ} {record result : σ}
      (hreads : Reads (field.read depth) text update)
      (hmore : Fills depth fields texts (update record) result) :
      Fills depth (field :: fields) (text :: texts) record result

theorem Fills.length_le {depth : Nat} {fields : List (Field σ)} {texts : List (List Char)}
    {record result : σ} (hfills : Fills depth fields texts record result) :
    texts.length ≤ fields.length := by
  induction hfills with
  | done => exact Nat.zero_le _
  | field _ _ ih => exact Nat.succ_le_succ ih

/-- Whether every value settles what a field reads. -/
structure Field.IsSettled (depth : Nat) (field : Field σ) : Prop where
  skips : SkipsBlanks (field.read depth)
  settles : ∀ text, IsValue text → Settles (field.read depth) text

/-- A field that stores what it reads is settled as its value is. -/
theorem Field.isSettled_of {α : Type} {depth : Nat} (name : String) {read : Nat → Reader α}
    (set : α → σ → σ) (hskips : SkipsBlanks (read depth))
    (hsettles : ∀ text, IsValue text → Settles (read depth) text) :
    (Field.of name read set).IsSettled depth where
  skips := Field.skipsBlanks_of name set hskips
  settles text hvalue := ((hsettles text hvalue).map set).congr fun _ _ => Field.read_of name set _

/-- A second name changes nothing of what is read. -/
theorem Field.IsSettled.alias {depth : Nat} {field : Field σ} (hsettled : field.IsSettled depth)
    (alias? : Option String) : { field with alias? }.IsSettled depth :=
  ⟨hsettled.skips, hsettled.settles⟩

/-! ## Arrays -/

theorem closeArray_eq_ok_iff {text left : List Char} :
    Shape.closeArray text = .ok left ↔ skipSpace text = ']' :: left := by
  unfold Shape.closeArray
  split
  · next hnil => simp [hnil]
  · next heq => simp [heq]
  · next heq =>
    rw [heq]
    split <;> simp
  · next hbracket _ => simpa using hbracket left

/-- In front of an item there is no closing bracket. -/
theorem skipSpace_continued_ne (first : Bool) {item : Padded} (hopens : OpensValue item.inner)
    (blanks : Blanks) (texts : List (List Char)) (rest left : List Char) :
    skipSpace (blanks.text ++ (continued first (item.text :: texts) ++ rest)) ≠ ']' :: left := by
  obtain ⟨c, more, hinner, hspace, hclose⟩ := hopens
  rw [skipSpace_blanks, continued_cons]
  cases first with
  | true =>
      rw [if_pos rfl, List.nil_append, List.append_assoc, Padded.text_append, skipSpace_blanks,
        hinner, List.cons_append, skipSpace_cons hspace]
      exact fun heq => hclose (List.cons.inj heq).1
  | false =>
      rw [if_neg Bool.false_ne_true, List.append_assoc, List.singleton_append, skipSpace_cons rfl]
      exact fun heq => absurd (List.cons.inj heq).1 (by decide)

/-- An array is closed where no item is left. -/
theorem closeArray_continued_eq_ok_iff (first : Bool) {items : List Padded}
    (hvalues : ∀ item ∈ items, IsValue item.inner) (blanks : Blanks) (rest left : List Char) :
    Shape.closeArray (blanks.text ++ (continued first (items.map Padded.text) ++ ']' :: rest)) =
      .ok left ↔ left = rest ∧ items = [] := by
  rw [closeArray_eq_ok_iff]
  cases items with
  | nil =>
      have hskip : skipSpace (']' :: rest) = ']' :: rest := skipSpace_cons rfl rest
      rw [List.map_nil, continued_nil, List.nil_append, skipSpace_blanks, hskip]
      simp [eq_comm]
  | cons item items =>
      have hne := skipSpace_continued_ne first (hvalues item List.mem_cons_self).opens blanks
        (items.map Padded.text) (']' :: rest) left
      exact ⟨fun heq => absurd heq hne, nofun⟩

namespace Shape

variable {shape : Shape σ} {depth : Nat} {field : Field σ} {fields : List (Field σ)}

/-- An array may end in front of a field. -/
theorem readItemsInto_close (hearly : shape.mayEndEarly = true) (index : Nat) (record : σ)
    (blanks : Blanks) (rest : List Char) :
    shape.readItemsInto depth (field :: fields) index record
        (blanks.text ++ (continued (index == 0) [] ++ ']' :: rest)) =
      .ok (record, ']' :: rest) := by
  rw [continued_nil, List.nil_append, readItemsInto, nextItem_blanks, nextItem_close]
  simp only [bind, Except.bind, Bool.false_eq_true, if_false, hearly, if_true]
  rfl

/-- An item is read into the next field. -/
theorem readItemsInto_item {item : Padded} (hopens : OpensValue item.inner) (index : Nat)
    (record : σ) (blanks : Blanks) (texts : List (List Char)) (rest : List Char) :
    shape.readItemsInto depth (field :: fields) index record
        (blanks.text ++ (continued (index == 0) (item.text :: texts) ++ ']' :: rest)) =
      field.read depth
          (item.inner ++ (item.back.text ++ (continued false texts ++ ']' :: rest))) >>=
        fun found => shape.readItemsInto depth fields (index + 1) (found.1 record) found.2 := by
  rw [readItemsInto, nextItem_blanks, nextItem_continued _ hopens]
  rfl

/-- The items of an array fill the fields one by one. An item for which no field is left keeps the
array from being closed. -/
theorem readItemsInto_eq_ok_iff (hearly : shape.mayEndEarly = true)
    (hsettled : ∀ field ∈ fields, field.IsSettled depth) {items : List Padded}
    (hvalues : ∀ item ∈ items, IsValue item.inner) (index : Nat) (record result : σ)
    (blanks : Blanks) (rest left : List Char) :
    (∃ after,
      shape.readItemsInto depth fields index record (blanks.text ++
          (continued (index == 0) (items.map Padded.text) ++ ']' :: rest)) = .ok (result, after) ∧
        closeArray after = .ok left) ↔
      left = rest ∧ Fills depth fields (items.map (·.inner)) record result := by
  induction fields generalizing items index record blanks with
  | nil =>
      simp only [readItemsInto, Except.ok.injEq, Prod.mk.injEq, and_assoc, exists_eq_left',
        closeArray_continued_eq_ok_iff (index == 0) hvalues, exists_and_left]
      constructor
      · rintro ⟨rfl, rfl, rfl⟩
        exact ⟨rfl, .done⟩
      · rintro ⟨rfl, hfills⟩
        cases items with
        | nil =>
            cases hfills
            exact ⟨rfl, rfl, rfl⟩
        | cons => cases hfills
  | cons field fields ih =>
      cases items with
      | nil =>
          rw [List.map_nil, List.map_nil, readItemsInto_close hearly]
          constructor
          · rintro ⟨after, ⟨⟩, hclose⟩
            cases hclose
            exact ⟨rfl, .done⟩
          · rintro ⟨rfl, hfills⟩
            cases hfills
            exact ⟨_, rfl, rfl⟩
      | cons item items =>
          have hitem := hvalues item List.mem_cons_self
          have hrest := isDelimited_blanks item.back
            (isDelimited_continued (items.map Padded.text) (.inl rfl) rest)
          have hothers (update : σ → σ) := ih
            (fun other hmem => hsettled other (List.mem_cons_of_mem _ hmem))
            (fun other hmem => hvalues other (List.mem_cons_of_mem _ hmem)) (index + 1)
            (update record) item.back
          rw [List.map_cons, List.map_cons, readItemsInto_item hitem.opens]
          constructor
          · rintro ⟨after, hfound, hclose⟩
            obtain ⟨⟨update, behind⟩, hupdate, hfound⟩ := exists_of_bind hfound
            obtain ⟨rfl, hreads⟩ := ((hsettled field List.mem_cons_self).settles _ hitem).reads
              hitem.opens hrest hupdate
            obtain ⟨rfl, hfills⟩ := (hothers update).1 ⟨after, hfound, hclose⟩
            exact ⟨rfl, .field hreads hfills⟩
          · rintro ⟨rfl, hfills⟩
            cases hfills with
            | field hreads hfills =>
                obtain ⟨after, hfound, hclose⟩ := (hothers _).2 ⟨rfl, hfills⟩
                refine ⟨after, ?_, hclose⟩
                rw [hreads.takes _ hrest]
                exact hfound

/-! ## Objects -/

/-- The members of an object that have the names of the first fields fill these one by one. -/
theorem readMembersInto_eq_ok_iff (hoptional : ∀ field ∈ shape.fields, field.required = false)
    (hknown : ∀ field ∈ fields, shape.field? field.name = some field)
    (hdistinct : (fields.map (·.name)).Nodup)
    (hsettled : ∀ field ∈ fields, field.IsSettled depth) {members : List Member}
    (hkeys : members.map (·.key) <+: fields.map (·.name))
    (hvalues : ∀ member ∈ members, IsValue member.value.inner) {seen : List String}
    (hunseen : ∀ field ∈ fields, field.name ∉ seen) (fuel : Nat) (first : Bool)
    (record result : σ) (blanks : Blanks) (rest left : List Char) :
    shape.readMembersInto depth (fuel + 1 + members.length) first seen record (blanks.text ++
        (continued first (members.map (·.text)) ++ '\x7d' :: rest)) = .ok (result, left) ↔
      left = '\x7d' :: rest ∧ Fills depth fields (members.map (·.value.inner)) record result := by
  induction members generalizing fields seen first record blanks with
  | nil =>
      have hclose := @readMembersInto_close _ shape depth seen
        (fun field hmem hrequired => by simp [hoptional field hmem] at hrequired)
        fuel first record blanks rest
      rw [List.map_nil, List.length_nil, Nat.add_zero, hclose]
      constructor
      · rintro ⟨⟩
        exact ⟨rfl, .done⟩
      · rintro ⟨rfl, hfills⟩
        cases hfills
        rfl
  | cons member members ih =>
      cases fields with
      | nil => simp at hkeys
      | cons field fields =>
          simp only [List.map_cons, List.cons_prefix_cons] at hkeys
          obtain ⟨hkey, hkeys⟩ := hkeys
          have hfield : shape.field? member.key = some field := by
            rw [hkey]
            exact hknown field List.mem_cons_self
          have hvalue := hvalues member List.mem_cons_self
          have hserved := hsettled field List.mem_cons_self
          have hrest := isDelimited_continued (members.map (·.text)) (.inr rfl) rest
          rw [List.map_cons, List.length_cons, ← Nat.add_assoc, readMembersInto_of_known hfield,
            if_neg (hunseen field List.mem_cons_self)]
          -- the names of the fields differ, so none of the later ones was seen by then
          obtain ⟨hnew, hdistinct⟩ := List.nodup_cons.1 hdistinct
          have hlater : ∀ other ∈ fields, other.name ∉ field.name :: seen := by
            intro other hmem hagain
            rcases List.mem_cons.1 hagain with hsame | hagain
            · exact hnew (List.mem_map.2 ⟨other, hmem, hsame⟩)
            · exact hunseen other (List.mem_cons_of_mem _ hmem) hagain
          have hothers (update : σ → σ) := ih
            (fun other hmem => hknown other (List.mem_cons_of_mem _ hmem)) hdistinct
            (fun other hmem => hsettled other (List.mem_cons_of_mem _ hmem)) hkeys
            (fun other hmem => hvalues other (List.mem_cons_of_mem _ hmem)) hlater false
            (update record) member.value.back
          constructor
          · intro hread
            obtain ⟨⟨update, behind⟩, hupdate, hread⟩ := exists_of_bind hread
            obtain ⟨rfl, hreads⟩ := (hserved.settles _ hvalue).reads_padded hvalue.opens
              hserved.skips hrest hupdate
            obtain ⟨rfl, hfills⟩ := (hothers update).1 hread
            exact ⟨rfl, .field hreads hfills⟩
          · rintro ⟨rfl, hfills⟩
            cases hfills with
            | field hreads hfills =>
                rw [hreads.takes_padded hserved.skips hrest]
                exact (hothers _).2 ⟨rfl, hfills⟩

end Shape

/-! ## Bodies -/

/-- An array that makes up a body, with blanks wherever they may stand. -/
structure ListBody where
  front : Blanks
  opening : Blanks
  items : List Padded
  back : Blanks

/-- The array with the blanks around it. -/
def ListBody.padded (list : ListBody) : Padded where
  front := list.front
  inner := spelledArray list.opening list.items
  back := list.back

/-- The text of the body. -/
def ListBody.text (list : ListBody) : String := String.ofList list.padded.text

/-- Whether all items of the array are values. -/
def ListBody.IsWellFormed (list : ListBody) : Prop := ∀ item ∈ list.items, IsValue item.inner

/-- Whether an object gives the values of an array under the first of these names, in their
order. -/
structure Body.IsNamed (names : List String) (list : ListBody) (body : Body) : Prop where
  keys : body.members.map (·.key) <+: names
  values : body.members.map (·.value.inner) = list.items.map (·.inner)

/-- A shape agrees on the two forms when it decodes an array of values exactly as the object that
gives them under its names, and no array with a value more than there are names. -/
structure Shape.AgreesOnForms (shape : Shape σ) (names : List String) : Prop where
  decode_iff : ∀ (list : ListBody) (body : Body), list.IsWellFormed → body.IsNamed names list →
    ∀ record, shape.decode list.text = .ok record ↔ shape.decode body.text = .ok record
  refuses : ∀ list : ListBody, list.IsWellFormed → names.length < list.items.length →
    ∃ fault, shape.decode list.text = .error fault

/-- Both forms are decoded to one record or both are refused. -/
theorem Shape.AgreesOnForms.decode_cases {shape : Shape σ} {names : List String}
    (hagrees : shape.AgreesOnForms names) {list : ListBody} {body : Body}
    (hvalues : list.IsWellFormed) (hnamed : body.IsNamed names list) :
    (∃ record, shape.decode list.text = .ok record ∧ shape.decode body.text = .ok record) ∨
      ∃ fault fault', shape.decode list.text = .error fault ∧
        shape.decode body.text = .error fault' := by
  have hsame := hagrees.decode_iff list body hvalues hnamed
  cases hlist : shape.decode list.text with
  | ok record => exact .inl ⟨record, rfl, (hsame record).1 hlist⟩
  | error fault =>
      cases hbody : shape.decode body.text with
      | ok record =>
          rw [(hsame record).2 hbody] at hlist
          cases hlist
      | error fault' => exact .inr ⟨fault, fault', rfl, rfl⟩

/-- Whether a shape asks for no field, be it by position or by name. -/
structure Shape.IsLenient (shape : Shape σ) (names : List String) : Prop where
  names_eq : shape.fields.map (·.name) = names
  distinct : names.Nodup
  known : ∀ field ∈ shape.fields, shape.field? field.name = some field
  optional : ∀ field ∈ shape.fields, field.required = false
  mayEndEarly : shape.mayEndEarly = true
  settled : ∀ field ∈ shape.fields, field.IsSettled 127

namespace Shape

variable {shape : Shape σ}

/-- A whole text is decoded as its inner text is read in front of the blanks behind it. -/
theorem decode_eq_ok_iff {padded : Padded} {holds : σ → Prop}
    (hread : ∀ record left, shape.read maxDepth (padded.inner ++ padded.back.text) =
      .ok (record, left) ↔ left = padded.back.text ∧ holds record) (record : σ) :
    shape.decode (String.ofList padded.text) = .ok record ↔ holds record := by
  have htext : shape.read maxDepth (String.ofList padded.text).toList =
      shape.read maxDepth (padded.inner ++ padded.back.text) := by
    rw [String.toList_ofList, Padded.text, (shape.skipsBlanks_read maxDepth).blanks]
  have hblank : skipSpace padded.back.text = [] := by
    rw [← List.append_nil padded.back.text, skipSpace_blanks]
    rfl
  constructor
  · intro hdecode
    obtain ⟨left, hfound⟩ := exists_read_of_decode hdecode
    rw [htext] at hfound
    exact ((hread record left).1 hfound).2
  · intro hrecord
    have hfound := (hread record padded.back.text).2 ⟨rfl, hrecord⟩
    simp only [decode, readWhole, bind, Except.bind, htext, hfound, hblank]
    rfl

theorem read_array_eq_ok_iff {depth : Nat} {text left : List Char} {record : σ} :
    shape.read (depth + 2) ('[' :: text) = .ok (record, left) ↔
      ∃ after, shape.readItemsInto (depth + 1) shape.fields 0 shape.blank text =
          .ok (record, after) ∧ closeArray after = .ok left := by
  rw [read, skipSpace_cons rfl]
  simp only [beq_self_eq_true, if_true]
  constructor
  · intro hread
    obtain ⟨⟨found, after⟩, hitems, hread⟩ := exists_of_bind hread
    obtain ⟨_, hclose, hread⟩ := exists_of_bind hread
    cases hread
    exact ⟨after, hitems, hclose⟩
  · rintro ⟨after, hitems, hclose⟩
    simp only [bind, Except.bind, hitems, hclose]
    rfl

variable {names : List String} (hlenient : shape.IsLenient names)

include hlenient

/-- An array is decoded to what its items make of the blank record. -/
theorem IsLenient.decode_list {list : ListBody} (hvalues : list.IsWellFormed) (record : σ) :
    shape.decode list.text = .ok record ↔
      Fills 127 shape.fields (list.items.map (·.inner)) shape.blank record := by
  refine decode_eq_ok_iff (fun record left => ?_) record
  have hitems := readItemsInto_eq_ok_iff hlenient.mayEndEarly hlenient.settled hvalues 0
    shape.blank record list.opening list.back.text left
  have htext : list.padded.inner ++ list.padded.back.text =
      '[' :: (list.opening.text ++
        (continued true (list.items.map Padded.text) ++ ']' :: list.back.text)) := by
    simp [ListBody.padded, spelledArray, continued_true]
  rw [htext]
  exact read_array_eq_ok_iff.trans hitems

/-- An object is decoded to what its members make of the blank record. -/
theorem IsLenient.decode_body {body : Body} (hkeys : body.members.map (·.key) <+: names)
    (hvalues : ∀ member ∈ body.members, IsValue member.value.inner) (record : σ) :
    shape.decode body.text = .ok record ↔
      Fills 127 shape.fields (body.members.map (·.value.inner)) shape.blank record := by
  refine decode_eq_ok_iff (fun record left => ?_) record
  obtain ⟨fuel, hfuel⟩ := exists_fuel body.opening body.members body.back.text
  have hnames := hlenient.names_eq
  have hmembers := readMembersInto_eq_ok_iff hlenient.optional hlenient.known
    (hnames ▸ hlenient.distinct) hlenient.settled (hnames ▸ hkeys) hvalues
    (fun _ _ => List.not_mem_nil) fuel true shape.blank record body.opening body.back.text
  rw [← hfuel] at hmembers
  have hread := shape.read_object 126 body.opening body.members body.back.text
  change shape.read 128 _ = .ok (record, left) ↔ _
  rw [Body.padded, hread]
  constructor
  · intro hmap
    cases hfound : shape.readMembersInto 127 _ true [] shape.blank (body.opening.text ++
        (continued true (body.members.map (·.text)) ++ '\x7d' :: body.back.text)) with
    | error fault =>
        rw [hfound] at hmap
        cases hmap
    | ok found =>
        rw [hfound] at hmap
        cases hmap
        obtain ⟨hafter, hfills⟩ := (hmembers _).1 hfound
        exact ⟨by rw [hafter]; rfl, hfills⟩
  · rintro ⟨rfl, hfills⟩
    rw [(hmembers _).2 ⟨rfl, hfills⟩]
    rfl

/-- A lenient shape agrees on both forms. -/
theorem IsLenient.agreesOnForms : shape.AgreesOnForms names where
  decode_iff list body hvalues hnamed record := by
    have hmembers : ∀ member ∈ body.members, IsValue member.value.inner := by
      intro member hmem
      have hinner : member.value.inner ∈ list.items.map (·.inner) :=
        hnamed.values ▸ List.mem_map.2 ⟨member, hmem, rfl⟩
      obtain ⟨item, hitem, heq⟩ := List.mem_map.1 hinner
      exact heq ▸ hvalues item hitem
    rw [hlenient.decode_list hvalues, hlenient.decode_body hnamed.keys hmembers, hnamed.values]
  refuses list hvalues hmany := by
    have hcount : shape.fields.length = names.length := by
      rw [← hlenient.names_eq, List.length_map]
    cases hdecode : shape.decode list.text with
    | error fault => exact ⟨fault, rfl⟩
    | ok record =>
        have hlength := ((hlenient.decode_list hvalues record).1 hdecode).length_le
        rw [List.length_map] at hlength
        omega

end Shape

end ClassroomClient.Json
