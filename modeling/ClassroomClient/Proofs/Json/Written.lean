/-
# Written JSON read back

The readers of JSON undo its printers. `Reads` says that a reader takes exactly a text off the
front of whatever follows it, as long as that begins with a blank, a comma or a closing bracket or
is empty. Strings and arrays are read back from their texts, so every text that is put together from
these is. Blanks may stand between the tokens of a text; a text without any is the case in which all
of them are empty.
-/

import Mathlib.Data.List.DropRight
import ClassroomClient.Json.Record
import ClassroomClient.Proofs.Json.Strings

namespace ClassroomClient.Json

/-! ## Control characters -/

/-- Whether a text holds no control characters. -/
def IsControlFree (text : List Char) : Prop := ∀ c ∈ text, 0x20 ≤ c.toNat

theorem isControlFree_append {front back : List Char} :
    IsControlFree (front ++ back) ↔ IsControlFree front ∧ IsControlFree back :=
  List.forall_mem_append

theorem isControlFree_cons {c : Char} {rest : List Char} :
    IsControlFree (c :: rest) ↔ 0x20 ≤ c.toNat ∧ IsControlFree rest :=
  List.forall_mem_cons

theorem isControlFree_stringChar (c : Char) : IsControlFree (stringChar c) := by
  have hdigit : ∀ n < 16, 0x20 ≤ (Nat.digitChar n).toNat := by decide
  fun_cases stringChar c with
  | case1 | case2 | case3 | case4 | case5 | case6 | case7 => simp [IsControlFree]
  | case8 _ hcontrol =>
      rw [if_pos hcontrol, isControlFree_append]
      refine ⟨by simp [IsControlFree], ?_⟩
      simp only [twoHexDigits, isControlFree_cons]
      exact ⟨hdigit _ (by omega), hdigit _ (by omega), by simp [IsControlFree]⟩
  | case9 _ hcontrol =>
      rw [if_neg hcontrol]
      simpa [IsControlFree] using hcontrol

/-- Whatever a string holds, its text holds no control characters. -/
theorem isControlFree_stringText (value : String) : IsControlFree (stringText value) := by
  simp only [stringText, isControlFree_cons, isControlFree_append]
  refine ⟨by decide, ?_, by decide, by simp [IsControlFree]⟩
  intro c hmem
  obtain ⟨original, -, hmem⟩ := List.mem_flatMap.1 hmem
  exact isControlFree_stringChar original c hmem

theorem isControlFree_commaSeparated {texts : List (List Char)}
    (htexts : ∀ text ∈ texts, IsControlFree text) : IsControlFree (commaSeparated texts) := by
  fun_induction commaSeparated texts with
  | case1 => simp [IsControlFree]
  | case2 text => exact htexts text List.mem_cons_self
  | case3 text rest _ ih =>
      rw [isControlFree_append, isControlFree_cons]
      exact ⟨htexts text List.mem_cons_self, by decide,
        ih fun other hmem => htexts other (List.mem_cons_of_mem _ hmem)⟩

theorem isControlFree_arrayText {texts : List (List Char)}
    (htexts : ∀ text ∈ texts, IsControlFree text) : IsControlFree (arrayText texts) := by
  simp only [arrayText, isControlFree_cons, isControlFree_append]
  exact ⟨by decide, isControlFree_commaSeparated htexts, by decide, by simp [IsControlFree]⟩

theorem isControlFree_objectText {texts : List (List Char)}
    (htexts : ∀ text ∈ texts, IsControlFree text) : IsControlFree (objectText texts) := by
  simp only [objectText, isControlFree_cons, isControlFree_append]
  exact ⟨by decide, isControlFree_commaSeparated htexts, by decide, by simp [IsControlFree]⟩

theorem isControlFree_memberText (name : String) {value : List Char}
    (hvalue : IsControlFree value) : IsControlFree (memberText name value) := by
  rw [memberText, isControlFree_append, isControlFree_cons]
  exact ⟨isControlFree_stringText name, by decide, hvalue⟩

/-! ## Values in front of other text -/

/-- Whether a text begins as it may behind a value: with a blank, a comma or a closing bracket. -/
def IsDelimited (rest : List Char) : Prop :=
  ∀ c ∈ rest.head?, isSpace c = true ∨ c = ',' ∨ c = ']' ∨ c = '\x7d'

theorem isDelimited_nil : IsDelimited [] := by
  simp [IsDelimited]

theorem isDelimited_cons {c : Char} (hc : c = ',' ∨ c = ']' ∨ c = '\x7d') (rest : List Char) :
    IsDelimited (c :: rest) := by
  simp [IsDelimited, hc]

/-- Whether a text begins as a value does. -/
def OpensValue (text : List Char) : Prop :=
  ∃ c more, text = c :: more ∧ isSpace c = false ∧ c ≠ ']'

/-- A reader that takes a text off the front of another one and returns a value for it. -/
structure Reads {α : Type} (read : Reader α) (text : List Char) (value : α) : Prop where
  opens : OpensValue text
  takes : ∀ rest, IsDelimited rest → read (text ++ rest) = .ok (value, rest)

theorem OpensValue.ne_nil {text : List Char} (hopens : OpensValue text) : text ≠ [] := by
  obtain ⟨c, more, rfl, -, -⟩ := hopens
  exact List.cons_ne_nil c more

theorem skipSpace_cons {c : Char} (hc : isSpace c = false) (rest : List Char) :
    skipSpace (c :: rest) = c :: rest := by
  rw [skipSpace, List.dropWhile_cons_of_neg (by simp [hc])]

theorem opensValue_stringText (value : String) : OpensValue (stringText value) :=
  ⟨'"', _, rfl, rfl, by decide⟩

theorem stringText_append (value : String) (rest : List Char) :
    stringText value ++ rest =
      '"' :: (value.toList.flatMap stringChar ++ '"' :: rest) := by
  simp [stringText]

/-- A string is read back from its text. -/
theorem reads_stringText (value : String) : Reads readText (stringText value) value where
  opens := opensValue_stringText value
  takes rest _ := by
    rw [stringText_append, readText, skipSpace_cons rfl]
    exact (spellsChars_flatMap value.toList).readString rest

/-- An optional value that is there is read like the value itself, unless its text could be taken
for `null`. -/
theorem Reads.optional {α : Type} {read : Reader α} {text : List Char} {value : α}
    (hreads : Reads read text value) (hnull : text.head? ≠ some 'n') :
    Reads (readOptional read) text (some value) where
  opens := hreads.opens
  takes rest hrest := by
    have htakes := hreads.takes rest hrest
    obtain ⟨c, more, rfl, hspace, -⟩ := hreads.opens
    rw [List.cons_append] at htakes ⊢
    rw [readOptional, skipSpace_cons hspace]
    split
    next after heq =>
      obtain ⟨rfl, -⟩ := List.cons.inj heq
      exact absurd rfl hnull
    next => simp only [bind, Except.bind, htakes]; rfl

/-! ## Blanks -/

/-- A text of blanks alone. -/
structure Blanks where
  text : List Char
  all_space : ∀ c ∈ text, isSpace c = true

/-- No blanks. -/
def Blanks.none : Blanks := ⟨[], nofun⟩

theorem skipSpace_blanks (blanks : Blanks) (text : List Char) :
    skipSpace (blanks.text ++ text) = skipSpace text :=
  List.dropWhile_append_of_pos blanks.all_space

theorem skipSpace_skipSpace (text : List Char) : skipSpace (skipSpace text) = skipSpace text :=
  List.dropWhile_idempotent _ text

/-- A reader that passes over the blanks in front of what it reads. -/
def SkipsBlanks {α : Type} (read : Reader α) : Prop :=
  ∀ text, read (skipSpace text) = read text

theorem SkipsBlanks.blanks {α : Type} {read : Reader α} (hskips : SkipsBlanks read)
    (blanks : Blanks) (text : List Char) : read (blanks.text ++ text) = read text := by
  rw [← hskips (blanks.text ++ text), skipSpace_blanks, hskips]

theorem skipsBlanks_readText : SkipsBlanks readText := by
  intro text
  rw [readText, skipSpace_skipSpace, readText]

theorem skipsBlanks_readFlag : SkipsBlanks readFlag := by
  intro text
  rw [readFlag, skipSpace_skipSpace, readFlag]

theorem skipsBlanks_readOptional {α : Type} (readSome : Reader α) :
    SkipsBlanks (readOptional readSome) := by
  intro text
  rw [readOptional, skipSpace_skipSpace, readOptional]

theorem skipsBlanks_readValue (depth : Nat) : SkipsBlanks (readValue depth) := by
  intro text
  unfold readValue
  rw [skipSpace_skipSpace]

/-- What follows a value may begin with blanks. -/
theorem isDelimited_blanks (blanks : Blanks) {rest : List Char} (hrest : IsDelimited rest) :
    IsDelimited (blanks.text ++ rest) := by
  obtain ⟨text, hspace⟩ := blanks
  cases text with
  | nil => exact hrest
  | cons c more =>
      intro d hhead
      cases hhead
      exact .inl (hspace c List.mem_cons_self)

/-! ## Items and members one after the other -/

/-- A text with blanks around it. -/
structure Padded where
  front : Blanks
  inner : List Char
  back : Blanks

namespace Padded

/-- The text with its blanks. -/
def text (padded : Padded) : List Char :=
  padded.front.text ++ (padded.inner ++ padded.back.text)

/-- A text without blanks around it. -/
def bare (inner : List Char) : Padded := { front := .none, inner, back := .none }

@[simp] theorem text_bare (inner : List Char) : (bare inner).text = inner := by
  simp [bare, text, Blanks.none]

theorem text_append (padded : Padded) (rest : List Char) :
    padded.text ++ rest =
      padded.front.text ++ (padded.inner ++ (padded.back.text ++ rest)) := by
  rw [text, List.append_assoc, List.append_assoc]

end Padded

/-- A padded text is read with the blanks in front of it. -/
theorem Reads.takes_padded {α : Type} {read : Reader α} {padded : Padded} {value : α}
    (hreads : Reads read padded.inner value) (hskips : SkipsBlanks read) {rest : List Char}
    (hrest : IsDelimited rest) :
    read (padded.text ++ rest) = .ok (value, padded.back.text ++ rest) := by
  rw [Padded.text_append, hskips.blanks]
  exact hreads.takes _ (isDelimited_blanks padded.back hrest)

/-- A member of an object: the text between the quotes of its name and the text of its value, with
blanks wherever they may stand. -/
structure MemberText where
  front : Blanks
  name : List Char
  /-- The blanks in front of the colon. -/
  gap : Blanks
  value : Padded

/-- The text of a member with its blanks. -/
def MemberText.text (member : MemberText) : List Char :=
  member.front.text ++ '"' :: (member.name ++ '"' :: (member.gap.text ++ ':' :: member.value.text))

/-- A member of an object with the name that its text spells. -/
structure Member extends MemberText where
  key : String
  spells : SpellsChars name key.toList

/-- A member as it is written. -/
def Member.bare (key : String) (value : List Char) : Member where
  front := .none
  name := key.toList.flatMap stringChar
  gap := .none
  value := .bare value
  key
  spells := spellsChars_flatMap key.toList

theorem Member.text_bare (key : String) (value : List Char) :
    (Member.bare key value).text = memberText key value := by
  simp [Member.bare, MemberText.text, Blanks.none, memberText, stringText]

/-- An array of items, with blanks behind its opening bracket. -/
def spelledArray (blanks : Blanks) (items : List Padded) : List Char :=
  '[' :: (blanks.text ++ (commaSeparated (items.map Padded.text) ++ [']']))

/-- An object of members, with blanks behind its opening brace. -/
def spelledObject (blanks : Blanks) (members : List MemberText) : List Char :=
  '\x7b' :: (blanks.text ++ (commaSeparated (members.map MemberText.text) ++ ['\x7d']))

theorem arrayText_eq (texts : List (List Char)) :
    arrayText texts = spelledArray .none (texts.map Padded.bare) := by
  simp [arrayText, spelledArray, Blanks.none, Function.comp_def]

theorem objectText_eq {α : Type} (key : α → String) (value : α → List Char) (members : List α) :
    objectText (members.map fun member => memberText (key member) (value member)) =
      spelledObject .none
        (members.map fun member => (Member.bare (key member) (value member)).toMemberText) := by
  simp [objectText, spelledObject, Blanks.none, Function.comp_def, Member.text_bare]

/-- Texts with a comma between them, and in front when others stand there already. -/
def continued (first : Bool) : List (List Char) → List Char
  | [] => []
  | text :: texts =>
      if first then commaSeparated (text :: texts) else ',' :: commaSeparated (text :: texts)

@[simp] theorem continued_nil (first : Bool) : continued first [] = [] := rfl

theorem continued_true (texts : List (List Char)) :
    continued true texts = commaSeparated texts := by
  cases texts <;> rfl

theorem continued_cons (first : Bool) (text : List Char) (texts : List (List Char)) :
    continued first (text :: texts) =
      (if first then [] else [',']) ++ (text ++ continued false texts) := by
  cases texts with
  | nil => cases first <;> simp [continued, commaSeparated]
  | cons next texts => cases first <;> simp [continued, commaSeparated]

/-- What follows an item is delimited, be it another item or the end. -/
theorem isDelimited_continued (texts : List (List Char)) {close : Char}
    (hclose : close = ']' ∨ close = '\x7d') (rest : List Char) :
    IsDelimited (continued false texts ++ close :: rest) := by
  cases texts with
  | nil => exact isDelimited_cons (.inr hclose) rest
  | cons text texts =>
      rw [continued_cons]
      exact isDelimited_cons (.inl rfl) _

theorem length_le_length_continued (first : Bool) (texts : List (List Char))
    (hsome : ∀ text ∈ texts, text ≠ []) : texts.length ≤ (continued first texts).length := by
  induction texts generalizing first with
  | nil => simp
  | cons text texts ih =>
      have hmore := ih false fun other hmem => hsome other (List.mem_cons_of_mem _ hmem)
      have hone := List.length_pos_iff.2 (hsome text List.mem_cons_self)
      simp only [continued_cons, List.length_cons, List.length_append]
      omega

theorem nextItem_blanks (first : Bool) (blanks : Blanks) (text : List Char) :
    nextItem first (blanks.text ++ text) = nextItem first text := by
  rw [nextItem, skipSpace_blanks, nextItem]

theorem nextMember_blanks (first : Bool) (blanks : Blanks) (text : List Char) :
    nextMember first (blanks.text ++ text) = nextMember first text := by
  rw [nextMember, skipSpace_blanks, nextMember]

/-- An item is found behind its comma and its blanks. -/
theorem nextItem_continued (first : Bool) {item : Padded} (hopens : OpensValue item.inner)
    (texts : List (List Char)) (rest : List Char) :
    nextItem first (continued first (item.text :: texts) ++ rest) =
      .ok (true, item.inner ++ (item.back.text ++ (continued false texts ++ rest))) := by
  obtain ⟨c, more, hinner, hspace, hclose⟩ := hopens
  have hskip (after : List Char) :
      skipSpace (item.text ++ after) = item.inner ++ (item.back.text ++ after) := by
    rw [Padded.text_append, skipSpace_blanks, hinner, List.cons_append, skipSpace_cons hspace]
  rw [continued_cons]
  cases first with
  | true =>
      rw [if_pos rfl, List.nil_append, List.append_assoc, nextItem, hskip, hinner]
      split
      next hnil => simp at hnil
      next hend => exact absurd (List.cons.inj hend).1 hclose
      next heq =>
        obtain ⟨rfl, rfl⟩ := List.cons.inj heq
        rfl
  | false =>
      rw [if_neg Bool.false_ne_true, List.append_assoc, List.singleton_append, List.append_assoc,
        nextItem, skipSpace_cons rfl]
      split
      next hnil => simp at hnil
      next hend => exact absurd (List.cons.inj hend).1 (by decide)
      next heq =>
        obtain ⟨rfl, rfl⟩ := List.cons.inj heq
        rw [if_neg Bool.false_ne_true, if_pos (by decide), hskip, hinner]
        split
        next hnil => simp at hnil
        next hend => exact absurd (List.cons.inj hend).1 hclose
        next => rfl

theorem nextItem_close (first : Bool) (rest : List Char) :
    nextItem first (']' :: rest) = .ok (false, ']' :: rest) := rfl

/-- A member is found behind its comma and its blanks. -/
theorem nextMember_continued (first : Bool) (member : MemberText) (texts : List (List Char))
    (rest : List Char) :
    nextMember first (continued first (member.text :: texts) ++ rest) =
      .ok (true, '"' :: (member.name ++ '"' :: (member.gap.text ++ ':' ::
        (member.value.text ++ (continued false texts ++ rest))))) := by
  have hskip (after : List Char) : skipSpace (member.text ++ after) =
      '"' :: (member.name ++ '"' :: (member.gap.text ++ ':' :: (member.value.text ++ after))) := by
    rw [MemberText.text, List.append_assoc, skipSpace_blanks, List.cons_append, skipSpace_cons rfl]
    simp
  rw [continued_cons]
  cases first with
  | true =>
      rw [if_pos rfl, List.nil_append, List.append_assoc, nextMember, hskip]
      rfl
  | false =>
      rw [if_neg Bool.false_ne_true, List.append_assoc, List.singleton_append, List.append_assoc,
        nextMember, skipSpace_cons rfl]
      split
      next hnil => simp at hnil
      next hend => exact absurd (List.cons.inj hend).1 (by decide)
      next heq =>
        obtain ⟨rfl, rfl⟩ := List.cons.inj heq
        rw [if_neg Bool.false_ne_true, if_pos (by decide), hskip]
        rfl

theorem nextMember_close (first : Bool) (rest : List Char) :
    nextMember first ('\x7d' :: rest) = .ok (false, '\x7d' :: rest) := rfl

/-- The name of a member is read from any of its spellings. -/
theorem readName_of_spells {name : List Char} {key : String}
    (hspells : SpellsChars name key.toList) (rest : List Char) :
    readName ('"' :: (name ++ '"' :: rest)) = .ok (key, rest) :=
  hspells.readString rest

theorem readColon_blanks (blanks : Blanks) (rest : List Char) :
    readColon (blanks.text ++ ':' :: rest) = .ok rest := by
  rw [readColon, skipSpace_blanks, skipSpace_cons rfl]
  rfl

theorem MemberText.text_ne_nil (member : MemberText) : member.text ≠ [] := by
  simp [MemberText.text]

/-! ## Arrays -/

section Array

variable {α : Type} {readItem : Reader α}

/-- An item of an array is read, and then all others. -/
theorem readItems_item {item : Padded} (hopens : OpensValue item.inner) (fuel : Nat) (first : Bool)
    (blanks : Blanks) (texts : List (List Char)) (rest : List Char) :
    readItems readItem (fuel + 1) first
        (blanks.text ++ (continued first (item.text :: texts) ++ ']' :: rest)) =
      readItem (item.inner ++ (item.back.text ++ (continued false texts ++ ']' :: rest))) >>=
        fun found => readItems readItem fuel false found.2 >>=
          fun others => pure (found.1 :: others.1, others.2) := by
  rw [readItems, nextItem_blanks, nextItem_continued first hopens]
  rfl

/-- The items of an array are read one after the other up to the closing bracket. -/
theorem readItems_continued {items : List (Padded × α)}
    (hitems : ∀ item ∈ items, Reads readItem item.1.inner item.2) {fuel : Nat}
    (hfuel : items.length < fuel) (first : Bool) (blanks : Blanks) (rest : List Char) :
    readItems readItem fuel first
        (blanks.text ++ (continued first (items.map (·.1.text)) ++ ']' :: rest)) =
      .ok (items.map (·.2), ']' :: rest) := by
  induction items generalizing fuel first blanks with
  | nil =>
      obtain ⟨more, rfl⟩ : ∃ more, fuel = more + 1 := ⟨fuel - 1, by simp at hfuel; omega⟩
      rw [List.map_nil, continued_nil, List.nil_append, readItems]
      simp only [bind, Except.bind, nextItem_blanks, nextItem_close]
      rfl
  | cons item items ih =>
      obtain ⟨more, rfl⟩ : ∃ more, fuel = more + 1 := ⟨fuel - 1, by simp at hfuel; omega⟩
      have hitem := hitems item List.mem_cons_self
      have htake := hitem.takes
        (item.1.back.text ++ (continued false (items.map (·.1.text)) ++ ']' :: rest))
        (isDelimited_blanks _ (isDelimited_continued _ (.inl rfl) rest))
      have hmore := ih (fun other hmem => hitems other (List.mem_cons_of_mem _ hmem))
        (by simpa using hfuel) false item.1.back
      rw [List.map_cons, readItems_item hitem.opens, htake]
      simp only [bind, Except.bind, hmore]
      rfl

/-- An array is read from any of its spellings, behind the opening bracket. -/
theorem readArray_spelled {items : List (Padded × α)}
    (hitems : ∀ item ∈ items, Reads readItem item.1.inner item.2) (blanks : Blanks)
    (rest : List Char) :
    readArray readItem ((spelledArray blanks (items.map (·.1))).tail ++ rest) =
      .ok (items.map (·.2), rest) := by
  have hsome : ∀ text ∈ items.map (·.1.text), text ≠ [] := by
    intro text hmem
    obtain ⟨item, hitem, rfl⟩ := List.mem_map.1 hmem
    simp [Padded.text, (hitems item hitem).opens.ne_nil]
  have hfuel : items.length <
      (blanks.text ++ (continued true (items.map (·.1.text)) ++ ']' :: rest)).length + 1 := by
    have hlength := length_le_length_continued true _ hsome
    rw [List.length_map] at hlength
    simp only [List.length_append, List.length_cons]
    omega
  have hread := readItems_continued hitems hfuel true blanks rest
  have htext : (spelledArray blanks (items.map (·.1))).tail ++ rest =
      blanks.text ++ (continued true (items.map (·.1.text)) ++ ']' :: rest) := by
    simp [spelledArray, continued_true, Function.comp_def]
  rw [htext]
  simp only [readArray, bind, Except.bind, hread]
  rfl

/-- A list is read back from the text of an array of texts of its items. -/
theorem Reads.list {depth : Nat} {readItem : Nat → Reader α} {write : α → List Char}
    {items : List α} (hitems : ∀ item ∈ items, Reads (readItem (depth + 1)) (write item) item) :
    Reads (readList (depth + 2) readItem) (arrayText (items.map write)) items where
  opens := ⟨'[', _, rfl, rfl, by decide⟩
  takes rest _ := by
    have hread := @readArray_spelled _ (readItem (depth + 1))
      (items.map fun item => (Padded.bare (write item), item))
      (List.forall_mem_map.2 hitems) .none rest
    simp only [List.map_map, Function.comp_def, List.map_id'] at hread
    rw [arrayText_eq, List.map_map]
    exact hread

end Array

end ClassroomClient.Json
