/-
# Values in any spelling

`Spells` says which value a JSON text stands for, whatever blanks stand between its tokens, however
its strings are escaped and in whatever order the members of its objects stand. It nests no deeper
than the depth allows. A value is read from any of its spellings in front of whatever may follow it.
-/

import ClassroomClient.Proofs.Json.Number

namespace ClassroomClient.Json

/-! ## Members that are read -/

section Object

variable {α : Type} {readItem : Reader α} {members : List (Member × α)}

/-- The members of an object are read one after the other up to the closing brace. -/
theorem readMembers_continued
    (hmembers : ∀ member ∈ members, Reads readItem member.1.value.inner member.2)
    (hskips : SkipsBlanks readItem) {fuel : Nat} (hfuel : members.length < fuel) (first : Bool)
    (blanks : Blanks) (rest : List Char) :
    readMembers readItem fuel first
        (blanks.text ++ (continued first (members.map (·.1.text)) ++ '\x7d' :: rest)) =
      .ok (members.map fun member => (member.1.key, member.2), '\x7d' :: rest) := by
  induction members generalizing fuel first blanks with
  | nil =>
      obtain ⟨more, rfl⟩ : ∃ more, fuel = more + 1 := ⟨fuel - 1, by simp at hfuel; omega⟩
      rw [List.map_nil, continued_nil, List.nil_append, readMembers]
      simp only [bind, Except.bind, nextMember_blanks, nextMember_close]
      rfl
  | cons member members ih =>
      obtain ⟨more, rfl⟩ : ∃ more, fuel = more + 1 := ⟨fuel - 1, by simp at hfuel; omega⟩
      have hnext := nextMember_continued first member.1.toMemberText (members.map (·.1.text))
        ('\x7d' :: rest)
      have hitem := (hmembers member List.mem_cons_self).takes_padded hskips
        (isDelimited_continued (members.map (·.1.text)) (.inr rfl) rest)
      have hmore := ih (fun other hmem => hmembers other (List.mem_cons_of_mem _ hmem))
        (by simpa using hfuel) false member.1.value.back
      rw [List.map_cons, readMembers]
      simp only [bind, Except.bind, nextMember_blanks, hnext, if_true,
        readName_of_spells member.1.spells, readColon_blanks, hitem, hmore]
      rfl

/-- An object is read from any of its spellings, behind the opening brace. -/
theorem readObject_spelled
    (hmembers : ∀ member ∈ members, Reads readItem member.1.value.inner member.2)
    (hskips : SkipsBlanks readItem) (blanks : Blanks) (rest : List Char) :
    readObject readItem
        ((spelledObject blanks (members.map (·.1.toMemberText))).tail ++ rest) =
      .ok (members.map fun member => (member.1.key, member.2), rest) := by
  have hfuel : members.length <
      (blanks.text ++ (continued true (members.map (·.1.text)) ++ '\x7d' :: rest)).length + 1 := by
    have hlength := length_le_length_continued true (members.map (·.1.text))
      (List.forall_mem_map.2 fun member _ => member.1.text_ne_nil)
    rw [List.length_map] at hlength
    simp only [List.length_append, List.length_cons]
    omega
  have hread := readMembers_continued hmembers hskips hfuel true blanks rest
  have htext : (spelledObject blanks (members.map (·.1.toMemberText))).tail ++ rest =
      blanks.text ++ (continued true (members.map (·.1.text)) ++ '\x7d' :: rest) := by
    simp [spelledObject, continued_true, Function.comp_def]
  rw [htext]
  simp only [readObject, bind, Except.bind, hread]
  rfl

end Object

/-! ## Numerals -/

/-- A numeral from its sign and what follows it. -/
def signed (negative : Bool) (digits : List Char) : List Char :=
  if negative then '-' :: digits else digits

theorem signedDecimal_eq (value : Int) :
    Text.signedDecimal value = signed (decide (value < 0)) (Text.decimal value.natAbs) := by
  simp [Text.signedDecimal, signed]

/-- What begins with neither bracket is read as a value without parts. -/
theorem readValue_cons {c : Char} (hspace : isSpace c = false) (harray : c ≠ '[')
    (hobject : c ≠ '\x7b') (depth : Nat) (rest : List Char) :
    readValue depth (c :: rest) = readScalar c rest := by
  unfold readValue
  rw [skipSpace_cons hspace]
  simp [harray, hobject]

theorem readScalar_of_isDigit {c : Char} (hdigit : c.isDigit = true) (rest : List Char) :
    readScalar c rest =
      (readNumber false (c :: rest)).map fun (number, rest) => (.number number, rest) := by
  rw [readScalar, if_pos hdigit]
  · cases readNumber false (c :: rest) <;> rfl
  · exact ne_of_isDigit hdigit (by decide)
  · exact ne_of_isDigit hdigit (by decide)
  · exact ne_of_isDigit hdigit (by decide)
  · exact ne_of_isDigit hdigit (by decide)
  · exact ne_of_isDigit hdigit (by decide)

/-- What is read as a number behind its sign begins with a digit. -/
theorem exists_digit_of_readNumber {negative : Bool} {text rest : List Char} {number : Number}
    (hread : readNumber negative text = .ok (number, rest)) :
    ∃ first more, text = first :: more ∧ first.isDigit = true := by
  cases text with
  | nil => cases hread
  | cons first more =>
      refine ⟨first, more, rfl, ?_⟩
      by_contra hdigit
      unfold readNumber at hread
      simp [hdigit] at hread

/-- A numeral that is read alone is read in front of other text. -/
theorem reads_signed {negative : Bool} {digits : List Char} {number : Number}
    (hread : readNumber negative digits = .ok (number, [])) (depth : Nat) :
    Reads (readValue depth) (signed negative digits) (.number number) := by
  obtain ⟨first, more, rfl, hdigit⟩ := exists_digit_of_readNumber hread
  have htakes (rest : List Char) (hrest : IsDelimited rest) :
      readNumber negative (first :: more ++ rest) = .ok (number, rest) :=
    isLocal_readNumber _ _ _ rest hrest hread
  cases negative with
  | true =>
      refine ⟨⟨'-', _, rfl, rfl, by decide⟩, fun rest hrest => ?_⟩
      rw [signed, if_pos rfl, List.cons_append, readValue_cons rfl (by decide) (by decide)]
      simp only [readScalar, bind, Except.bind, htakes rest hrest]
      rfl
  | false =>
      have hspace : isSpace first = false := isSpace_eq_false_of_isDigit hdigit
      refine ⟨⟨first, more, rfl, hspace, ne_of_isDigit hdigit (by decide)⟩, fun rest hrest => ?_⟩
      have hread := htakes rest hrest
      rw [List.cons_append] at hread
      rw [signed, if_neg Bool.false_ne_true, List.cons_append,
        readValue_cons hspace (ne_of_isDigit hdigit (by decide))
          (ne_of_isDigit hdigit (by decide)), readScalar_of_isDigit hdigit, hread]
      rfl

/-- An integer within 64 bits is read from its digits. -/
theorem readNumber_integer {value : Int} (hrange : (Number.integer value).InRange) :
    readNumber (decide (value < 0)) (Text.decimal value.natAbs) = .ok (.integer value, []) := by
  obtain ⟨hlow, hhigh⟩ := hrange
  have hmax : Number.maxInteger = 2 ^ 64 - 1 := rfl
  have hread (negative : Bool) := readNumber_decimal negative
    (show value.natAbs ≤ Number.maxInteger by omega) isDelimited_nil
  simp only [List.append_nil] at hread
  rw [hread]
  by_cases hnegative : value < 0
  · have hsmall : (value.natAbs == 0 || decide (Nat.pow 2 63 < value.natAbs)) = false := by
      have hpow : Nat.pow 2 63 = 2 ^ 63 := rfl
      simp only [hpow, Bool.or_eq_false_iff, beq_eq_false_iff_ne, decide_eq_false_iff_not]
      omega
    rw [decide_eq_true hnegative, Number.ofInteger, hsmall, if_neg (by decide),
      if_neg (by decide)]
    congr 3
    omega
  · rw [decide_eq_false hnegative, Number.ofInteger, if_pos (by decide)]
    congr 3
    omega

/-! ## Spellings -/

/-- A text and the value that it stands for, which nests no deeper than the depth allows. An integer
within 64 bits is given by its digits, any other numeral by the real that it is read as alone. -/
inductive Spells : Nat → List Char → Value → Prop
  | null {depth : Nat} : Spells depth ['n', 'u', 'l', 'l'] .null
  | boolean {depth : Nat} (value : Bool) : Spells depth (Value.boolean value).text (.boolean value)
  | integer {depth : Nat} {value : Int} (hrange : (Number.integer value).InRange) :
      Spells depth (Text.signedDecimal value) (.number (.integer value))
  | real {depth : Nat} {negative : Bool} {digits : List Char} {value : Float}
      (hread : readNumber negative digits = .ok (.real value, [])) :
      Spells depth (signed negative digits) (.number (.real value))
  | string {depth : Nat} {text : List Char} {value : String}
      (hchars : SpellsChars text value.toList) :
      Spells depth ('"' :: (text ++ ['"'])) (.string value)
  | array {depth : Nat} (blanks : Blanks) {items : List (Padded × Value)}
      (hitems : ∀ item ∈ items, Spells (depth + 1) item.1.inner item.2) :
      Spells (depth + 2) (spelledArray blanks (items.map (·.1))) (.array (items.map (·.2)))
  | object {depth : Nat} (blanks : Blanks) {members : List (Member × Value)}
      (hmembers : ∀ member ∈ members, Spells (depth + 1) member.1.value.inner member.2) :
      Spells (depth + 2) (spelledObject blanks (members.map (·.1.toMemberText)))
        (.object (ofMembers (members.map fun member => (member.1.key, member.2))))

/-- A value is read from any of its spellings. -/
theorem Spells.reads {depth : Nat} {text : List Char} {value : Value}
    (hspells : Spells depth text value) : Reads (readValue depth) text value := by
  induction hspells with
  | null =>
      refine ⟨⟨'n', _, rfl, rfl, by decide⟩, fun rest _ => ?_⟩
      exact readValue_cons (c := 'n') rfl (by decide) (by decide) _ _
  | boolean value =>
      cases value with
      | false =>
          refine ⟨⟨'f', _, rfl, rfl, by decide⟩, fun rest _ => ?_⟩
          exact readValue_cons (c := 'f') rfl (by decide) (by decide) _ _
      | true =>
          refine ⟨⟨'t', _, rfl, rfl, by decide⟩, fun rest _ => ?_⟩
          exact readValue_cons (c := 't') rfl (by decide) (by decide) _ _
  | integer hrange =>
      rw [signedDecimal_eq]
      exact reads_signed (readNumber_integer hrange) _
  | real hread => exact reads_signed hread _
  | @string depth text value hchars =>
      refine ⟨⟨'"', _, rfl, rfl, by decide⟩, fun rest _ => ?_⟩
      have hread := hchars.readString rest
      rw [List.cons_append, List.append_assoc, List.singleton_append,
        readValue_cons rfl (by decide) (by decide)]
      simp only [readScalar, bind, Except.bind, hread]
      rfl
  | @array depth blanks items _ ih =>
      refine ⟨⟨'[', _, rfl, rfl, by decide⟩, fun rest _ => ?_⟩
      have hread := readArray_spelled ih blanks rest
      rw [spelledArray, List.tail_cons] at hread
      rw [spelledArray, List.cons_append, readValue, skipSpace_cons rfl]
      simp only [beq_self_eq_true, if_true, bind, Except.bind, hread]
      rfl
  | @object depth blanks members _ ih =>
      refine ⟨⟨'\x7b', _, rfl, rfl, by decide⟩, fun rest _ => ?_⟩
      have hread := readObject_spelled ih (skipsBlanks_readValue _) blanks rest
      have hbrace : ('\x7b' == '[') = false := by decide
      rw [spelledObject, List.tail_cons] at hread
      rw [spelledObject, List.cons_append, readValue, skipSpace_cons rfl]
      simp only [hbrace, Bool.false_eq_true, if_false, beq_self_eq_true, if_true, bind, Except.bind,
        hread]
      rfl

end ClassroomClient.Json
