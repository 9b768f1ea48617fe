/-
# Values read back

Whatever text a value is read from, the value fits the depth that was left to the reader: it nests
no deeper, the names of every object increase, and every integer lies within 64 bits. A value that
fits and holds no reals is read back from its own text at the same depth, so reading and writing in
turn comes to rest after one round. Reals are left out, their texts are rounded. The text of any
value is a single line.
-/

import ClassroomClient.Proofs.Json.Spelling

namespace ClassroomClient.Json

/-! ## Members in the order of their names -/

theorem mem_of_mem_foldl_insert {α : Type} {members kept : List (String × α)}
    {member : String × α}
    (hmem : member ∈ members.foldl (fun kept entry => Entries.insert entry.1 entry.2 kept) kept) :
    member ∈ members ∨ member ∈ kept := by
  induction members generalizing kept with
  | nil => exact .inr hmem
  | cons first members ih =>
      rcases ih hmem with hmore | hkept
      · exact .inl (List.mem_cons_of_mem _ hmore)
      · rcases Entries.mem_insert hkept with rfl | hkept
        · exact .inl List.mem_cons_self
        · exact .inr hkept

/-- Every member of an object is one of its text. -/
theorem mem_of_mem_ofMembers {members : List (String × Value)} {member : String × Value}
    (hmem : member ∈ ofMembers members) : member ∈ members :=
  (mem_of_mem_foldl_insert hmem).resolve_right List.not_mem_nil

/-- The names of the members of an object increase, whatever their order in the text. -/
theorem ordered_ofMembers (members : List (String × Value)) :
    Entries.Ordered (ofMembers members) := by
  have hfold (kept : List (String × Value)) (hkept : Entries.Ordered kept) :
      Entries.Ordered
        (members.foldl (fun kept entry => Entries.insert entry.1 entry.2 kept) kept) := by
    induction members generalizing kept with
    | nil => exact hkept
    | cons first members ih => exact ih _ (Entries.ordered_insert _ _ hkept)
  exact hfold [] .nil

/-- Members that stand in their order are kept as they are. -/
theorem ofMembers_of_ordered {members : List (String × Value)}
    (hordered : Entries.Ordered members) : ofMembers members = members := by
  have hfold (kept : List (String × Value)) (hall : Entries.Ordered (kept ++ members)) :
      members.foldl (fun kept entry => Entries.insert entry.1 entry.2 kept) kept =
        kept ++ members := by
    clear hordered
    induction members generalizing kept with
    | nil => exact (List.append_nil kept).symm
    | cons first members ih =>
        obtain ⟨name, value⟩ := first
        have hlast : ∀ member ∈ kept, member.1 < name := fun member hmem =>
          (List.pairwise_append.1 hall).2.2 member hmem (name, value) List.mem_cons_self
        change members.foldl _ (Entries.insert name value kept) = _
        rw [Entries.insert_of_lt value hlast, ih _ (by simpa using hall), List.append_assoc]
        rfl
  exact hfold [] hordered

/-! ## What is read -/

/-- A value that a reader can yield at a depth: it nests no deeper than the depth allows, the names
of every object increase, and every integer lies within 64 bits. -/
inductive Value.Fits : Nat → Value → Prop
  | null {depth : Nat} : Fits depth .null
  | boolean {depth : Nat} (value : Bool) : Fits depth (.boolean value)
  | number {depth : Nat} {value : Number} (hrange : value.InRange) : Fits depth (.number value)
  | string {depth : Nat} (value : String) : Fits depth (.string value)
  | array {depth : Nat} {items : List Value} (hitems : ∀ item ∈ items, Fits (depth + 1) item) :
      Fits (depth + 2) (.array items)
  | object {depth : Nat} {members : List (String × Value)} (hordered : Entries.Ordered members)
      (hmembers : ∀ member ∈ members, Fits (depth + 1) member.2) :
      Fits (depth + 2) (.object members)

section Containers

variable {α : Type} {holds : α → Prop} {readItem : Reader α}

theorem forall_of_readItems
    (hitem : ∀ text item rest, readItem text = .ok (item, rest) → holds item) {fuel : Nat}
    {first : Bool} {text rest : List Char} {items : List α}
    (hread : readItems readItem fuel first text = .ok (items, rest)) :
    ∀ item ∈ items, holds item := by
  induction fuel generalizing first text rest items with
  | zero => cases hread
  | succ fuel ih =>
      obtain ⟨⟨more, text⟩, -, hread⟩ := exists_of_bind hread
      cases more with
      | false =>
          cases hread
          exact nofun
      | true =>
          obtain ⟨⟨item, text⟩, hfirst, hread⟩ := exists_of_bind hread
          obtain ⟨⟨items, text⟩, hmore, hread⟩ := exists_of_bind hread
          cases hread
          exact List.forall_mem_cons.2 ⟨hitem _ _ _ hfirst, ih hmore⟩

theorem forall_of_readMembers
    (hitem : ∀ text item rest, readItem text = .ok (item, rest) → holds item) {fuel : Nat}
    {first : Bool} {text rest : List Char} {members : List (String × α)}
    (hread : readMembers readItem fuel first text = .ok (members, rest)) :
    ∀ member ∈ members, holds member.2 := by
  induction fuel generalizing first text rest members with
  | zero => cases hread
  | succ fuel ih =>
      obtain ⟨⟨more, text⟩, -, hread⟩ := exists_of_bind hread
      cases more with
      | false =>
          cases hread
          exact nofun
      | true =>
          obtain ⟨⟨name, text⟩, -, hread⟩ := exists_of_bind hread
          obtain ⟨text, -, hread⟩ := exists_of_bind hread
          obtain ⟨⟨item, text⟩, hfirst, hread⟩ := exists_of_bind hread
          obtain ⟨⟨members, text⟩, hmore, hread⟩ := exists_of_bind hread
          cases hread
          exact List.forall_mem_cons.2 ⟨hitem _ _ _ hfirst, ih hmore⟩

theorem forall_of_readArray
    (hitem : ∀ text item rest, readItem text = .ok (item, rest) → holds item)
    {text rest : List Char} {items : List α} (hread : readArray readItem text = .ok (items, rest)) :
    ∀ item ∈ items, holds item := by
  obtain ⟨⟨items, text⟩, hitems, hread⟩ := exists_of_bind hread
  cases hread
  exact forall_of_readItems hitem hitems

theorem forall_of_readObject
    (hitem : ∀ text item rest, readItem text = .ok (item, rest) → holds item)
    {text rest : List Char} {members : List (String × α)}
    (hread : readObject readItem text = .ok (members, rest)) :
    ∀ member ∈ members, holds member.2 := by
  obtain ⟨⟨members, text⟩, hmembers, hread⟩ := exists_of_bind hread
  cases hread
  exact forall_of_readMembers hitem hmembers

end Containers

theorem fits_of_readScalar {depth : Nat} {c : Char} {text rest : List Char} {value : Value}
    (hread : readScalar c text = .ok (value, rest)) : value.Fits depth := by
  unfold readScalar at hread
  split at hread
  · obtain ⟨_, -, hread⟩ := exists_of_bind hread
    cases hread
    exact .null
  · obtain ⟨_, -, hread⟩ := exists_of_bind hread
    cases hread
    exact .boolean true
  · obtain ⟨_, -, hread⟩ := exists_of_bind hread
    cases hread
    exact .boolean false
  · obtain ⟨_, hnumber, hread⟩ := exists_of_bind hread
    cases hread
    exact .number (inRange_of_readNumber hnumber)
  · obtain ⟨_, -, hread⟩ := exists_of_bind hread
    cases hread
    exact .string _
  · split at hread
    · obtain ⟨_, hnumber, hread⟩ := exists_of_bind hread
      cases hread
      exact .number (inRange_of_readNumber hnumber)
    · cases hread

/-- A value that is read fits the depth at which it is read. -/
theorem fits_of_readValue {depth : Nat} {text rest : List Char} {value : Value}
    (hread : readValue depth text = .ok (value, rest)) : value.Fits depth := by
  induction depth generalizing text rest value with
  | zero =>
      unfold readValue at hread
      split at hread
      · cases hread
      · split at hread
        · cases hread
        · split at hread
          · cases hread
          · exact fits_of_readScalar hread
  | succ depth ih =>
      unfold readValue at hread
      split at hread
      · cases hread
      · split at hread
        · split at hread
          · next left hleft =>
            obtain rfl := Nat.succ.inj hleft
            obtain ⟨⟨items, text⟩, hitems, hread⟩ := exists_of_bind hread
            cases hread
            exact .array (forall_of_readArray (fun _ _ _ => ih) hitems)
          · cases hread
        · split at hread
          · split at hread
            · next left hleft =>
              obtain rfl := Nat.succ.inj hleft
              obtain ⟨⟨members, text⟩, hmembers, hread⟩ := exists_of_bind hread
              cases hread
              have hfits := forall_of_readObject (fun _ _ _ => ih) hmembers
              exact .object (ordered_ofMembers members) fun member hmem =>
                hfits member (mem_of_mem_ofMembers hmem)
            · cases hread
          · exact fits_of_readScalar hread

/-! ## Reading back -/

namespace Value

mutual

/-- Whether every number in a value is an integer. -/
def isIntegral : Value → Bool
  | .number (.real _) => false
  | .array items => itemsAreIntegral items
  | .object members => membersAreIntegral members
  | _ => true

/-- Whether every number in the items of an array is an integer. -/
def itemsAreIntegral : List Value → Bool
  | [] => true
  | item :: rest => isIntegral item && itemsAreIntegral rest

/-- Whether every number in the members of an object is an integer. -/
def membersAreIntegral : List (String × Value) → Bool
  | [] => true
  | (_, value) :: rest => isIntegral value && membersAreIntegral rest

end

theorem isIntegral_array {items : List Value} :
    (array items).isIntegral = true ↔ ∀ item ∈ items, item.isIntegral = true := by
  rw [isIntegral]
  induction items with
  | nil => simp [itemsAreIntegral]
  | cons item items ih => rw [itemsAreIntegral, Bool.and_eq_true, ih, List.forall_mem_cons]

theorem isIntegral_object {members : List (String × Value)} :
    (object members).isIntegral = true ↔ ∀ member ∈ members, member.2.isIntegral = true := by
  rw [isIntegral]
  induction members with
  | nil => simp [membersAreIntegral]
  | cons member members ih => rw [membersAreIntegral, Bool.and_eq_true, ih, List.forall_mem_cons]

end Value

theorem itemTexts_eq (items : List Value) : Value.itemTexts items = items.map Value.text := by
  induction items with
  | nil => rfl
  | cons item items ih => rw [Value.itemTexts, ih, List.map_cons]

theorem memberTexts_eq (members : List (String × Value)) :
    Value.memberTexts members = members.map fun member => memberText member.1 member.2.text := by
  induction members with
  | nil => rfl
  | cons member members ih => rw [Value.memberTexts, ih, List.map_cons]

/-- A value that fits a depth and holds no reals is spelled by its own text. -/
theorem Value.Fits.spells_text {depth : Nat} {value : Value} (hfits : value.Fits depth)
    (hintegral : value.isIntegral = true) : Spells depth value.text value := by
  induction hfits with
  | null => exact .null
  | boolean value => exact .boolean value
  | @number depth number hrange =>
      cases number with
      | integer value => exact .integer hrange
      | real value => cases hintegral
  | string value => exact .string (spellsChars_flatMap value.toList)
  | @array depth items _ ih =>
      have hall := Value.isIntegral_array.1 hintegral
      have hitems : ∀ item ∈ items.map fun item => (Padded.bare item.text, item),
          Spells (depth + 1) item.1.inner item.2 :=
        List.forall_mem_map.2 fun item hmem => ih item hmem (hall item hmem)
      have hspells := Spells.array .none hitems
      rw [Value.text, itemTexts_eq, arrayText_eq]
      simpa only [List.map_map, Function.comp_def, List.map_id'] using hspells
  | @object depth members hordered _ ih =>
      have hall := Value.isIntegral_object.1 hintegral
      have hmembers :
          ∀ member ∈ members.map fun member => (Member.bare member.1 member.2.text, member.2),
            Spells (depth + 1) member.1.value.inner member.2 :=
        List.forall_mem_map.2 fun member hmem => ih member hmem (hall member hmem)
      have hspells := Spells.object .none hmembers
      rw [Value.text, memberTexts_eq, objectText_eq]
      simpa only [List.map_map, Function.comp_def, Member.bare, List.map_id',
        ofMembers_of_ordered hordered] using hspells

/-- A value that fits a depth and holds no reals is read back from its text at that depth. -/
theorem Value.Fits.reads_text {depth : Nat} {value : Value} (hfits : value.Fits depth)
    (hintegral : value.isIntegral = true) : Reads (readValue depth) value.text value :=
  (hfits.spells_text hintegral).reads

/-! ## Lines -/

theorem isControlFree_decimal (n : Nat) : IsControlFree (Text.decimal n) := by
  intro c hmem
  have hrange := Char.isDigit_iff_toNat.1 (Text.isDigit_of_mem_decimal hmem)
  change 48 ≤ c.toNat ∧ c.toNat ≤ 57 at hrange
  omega

theorem isControlFree_signedDecimal (value : Int) : IsControlFree (Text.signedDecimal value) := by
  rw [signedDecimal_eq, signed]
  split
  · exact isControlFree_cons.2 ⟨by decide, isControlFree_decimal _⟩
  · exact isControlFree_decimal _

theorem isControlFree_layout {digits : List Char} (hdigits : IsControlFree digits) (point : Int) :
    IsControlFree (Number.layout digits point) := by
  have hzeros (count : Nat) : IsControlFree (List.replicate count '0') := by
    intro c hmem
    rw [List.eq_of_mem_replicate hmem]
    decide
  have hpoint : IsControlFree ['.', '0'] := by simp [IsControlFree]
  unfold Number.layout
  dsimp only
  split
  · exact isControlFree_append.2 ⟨isControlFree_append.2 ⟨hdigits, hzeros _⟩, hpoint⟩
  · split
    · exact isControlFree_append.2 ⟨fun c hmem => hdigits c (List.mem_of_mem_take hmem),
        isControlFree_cons.2 ⟨by decide, fun c hmem => hdigits c (List.mem_of_mem_drop hmem)⟩⟩
    · split
      · exact isControlFree_append.2
          ⟨isControlFree_append.2 ⟨by simp [IsControlFree], hzeros _⟩, hdigits⟩
      · refine isControlFree_append.2 ⟨?_, isControlFree_cons.2 ⟨by decide,
          isControlFree_cons.2 ⟨by split <;> decide, isControlFree_decimal _⟩⟩⟩
        split
        · exact hdigits
        · exact hdigits
        · obtain ⟨hfirst, hmore⟩ := isControlFree_cons.1 hdigits
          exact isControlFree_cons.2 ⟨hfirst, isControlFree_cons.2 ⟨by decide, hmore⟩⟩

theorem isControlFree_realText (value : Float) : IsControlFree (Number.realText value) := by
  have hsigned {unsigned : List Char} (hunsigned : IsControlFree unsigned) :
      IsControlFree (if Number.isNegative value then '-' :: unsigned else unsigned) := by
    split
    · exact isControlFree_cons.2 ⟨by decide, hunsigned⟩
    · exact hunsigned
  unfold Number.realText
  apply hsigned
  split
  · simp [IsControlFree]
  · exact isControlFree_layout (isControlFree_decimal _) _

mutual

/-- Whatever a value holds, its text is a single line. -/
theorem isControlFree_text : ∀ value : Value, IsControlFree value.text
  | .null => by simp [Value.text, IsControlFree]
  | .boolean true => by simp [Value.text, IsControlFree]
  | .boolean false => by simp [Value.text, IsControlFree]
  | .number (.integer value) => isControlFree_signedDecimal value
  | .number (.real value) => isControlFree_realText value
  | .string value => isControlFree_stringText value
  | .array items => isControlFree_arrayText (isControlFree_itemTexts items)
  | .object members => isControlFree_objectText (isControlFree_memberTexts members)

theorem isControlFree_itemTexts :
    ∀ items : List Value, ∀ text ∈ Value.itemTexts items, IsControlFree text
  | [] => nofun
  | item :: rest =>
      List.forall_mem_cons.2 ⟨isControlFree_text item, isControlFree_itemTexts rest⟩

theorem isControlFree_memberTexts :
    ∀ members : List (String × Value), ∀ text ∈ Value.memberTexts members, IsControlFree text
  | [] => nofun
  | (name, value) :: rest =>
      List.forall_mem_cons.2 ⟨isControlFree_memberText name (isControlFree_text value),
        isControlFree_memberTexts rest⟩

end

end ClassroomClient.Json
