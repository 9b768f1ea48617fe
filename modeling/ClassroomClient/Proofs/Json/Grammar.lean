/-
# Values that are passed over

`IsValue` is the grammar of JSON texts and nothing more: a value may nest to any depth, its numerals
may be of any size, and an escape needs no more than its four digits. Every such text is passed over
in front of whatever may follow a value. Passing over takes fewer steps than twice the characters of
the text, so the fuel that is there is enough.
-/

import ClassroomClient.Json.Skip
import ClassroomClient.Proofs.Json.Spelling

namespace ClassroomClient.Json

/-! ## The grammar -/

/-- A text between quotes. -/
inductive IsChars : List Char → Prop
  | nil : IsChars []
  | plain {c : Char} {text : List Char} (hquote : c ≠ '"') (hbackslash : c ≠ '\\')
      (hcontrol : ¬ c.toNat < 0x20) (hmore : IsChars text) : IsChars (c :: text)
  | letter {letter : Char} {text : List Char} (hletter : (simpleEscape? letter).isSome = true)
      (hmore : IsChars text) : IsChars ('\\' :: letter :: text)
  | unit {digits : List Char} {unit : Nat} {text : List Char} (hdigits : HexUnit digits unit)
      (hmore : IsChars text) : IsChars ('\\' :: 'u' :: (digits ++ text))

/-- One digit or more. -/
structure IsDigits (text : List Char) : Prop where
  ne_nil : text ≠ []
  all_digits : ∀ c ∈ text, c.isDigit = true

/-- The digits in front of a decimal point, of which the first is zero only when it is the only
one. -/
inductive IsWhole : List Char → Prop
  | zero : IsWhole ['0']
  | digits {first : Char} {more : List Char} (hfirst : first ≠ '0')
      (hdigits : IsDigits (first :: more)) : IsWhole (first :: more)

/-- A decimal point with its digits, or nothing. -/
inductive IsFraction : List Char → Prop
  | none : IsFraction []
  | digits {digits : List Char} (hdigits : IsDigits digits) : IsFraction ('.' :: digits)

/-- An exponent with its letter, or nothing. -/
inductive IsExponent : List Char → Prop
  | none : IsExponent []
  | digits {letter : Char} {sign digits : List Char} (hletter : letter = 'e' ∨ letter = 'E')
      (hsign : sign = [] ∨ sign = ['+'] ∨ sign = ['-']) (hdigits : IsDigits digits) :
      IsExponent (letter :: (sign ++ digits))

/-- A numeral behind its sign. -/
inductive IsNumeral : List Char → Prop
  | parts {whole fraction exponent : List Char} (hwhole : IsWhole whole)
      (hfraction : IsFraction fraction) (hexponent : IsExponent exponent) :
      IsNumeral (whole ++ (fraction ++ exponent))

/-- The text of a JSON value. -/
inductive IsValue : List Char → Prop
  | null : IsValue ['n', 'u', 'l', 'l']
  | boolean (value : Bool) : IsValue (Value.boolean value).text
  | numeral (negative : Bool) {digits : List Char} (hdigits : IsNumeral digits) :
      IsValue (signed negative digits)
  | string {text : List Char} (hchars : IsChars text) : IsValue ('"' :: (text ++ ['"']))
  | array (blanks : Blanks) {items : List Padded} (hitems : ∀ item ∈ items, IsValue item.inner) :
      IsValue (spelledArray blanks items)
  | object (blanks : Blanks) {members : List MemberText}
      (hnames : ∀ member ∈ members, IsChars member.name)
      (hvalues : ∀ member ∈ members, IsValue member.value.inner) :
      IsValue (spelledObject blanks members)

/-! ## Strings -/

theorem IsChars.skipChars {text : List Char} (hchars : IsChars text) {fuel : Nat}
    (hfuel : text.length < fuel) (rest : List Char) :
    skipChars fuel (text ++ '"' :: rest) = .ok rest := by
  induction hchars generalizing fuel with
  | nil =>
      obtain ⟨more, rfl⟩ : ∃ more, fuel = more + 1 := ⟨fuel - 1, by omega⟩
      rfl
  | plain hquote hbackslash hcontrol _ ih =>
      obtain ⟨more, rfl⟩ : ∃ more, fuel = more + 1 := ⟨fuel - 1, by omega⟩
      rw [List.cons_append, Json.skipChars]
      · rw [if_neg hcontrol]
        exact ih (by simpa using hfuel)
      · exact hquote
      · exact hbackslash
  | @letter letter text hletter _ ih =>
      obtain ⟨more, rfl⟩ : ∃ more, fuel = more + 1 := ⟨fuel - 1, by omega⟩
      have hunit : letter ≠ 'u' := by
        rintro rfl
        cases hletter
      simp only [List.length_cons] at hfuel
      rw [List.cons_append, List.cons_append, Json.skipChars]
      · rw [if_pos hletter]
        exact ih (by omega)
      · exact hunit
  | unit hdigits _ ih =>
      obtain ⟨more, rfl⟩ : ∃ more, fuel = more + 1 := ⟨fuel - 1, by omega⟩
      simp only [List.length_cons, List.length_append] at hfuel
      rw [List.cons_append, List.cons_append, List.append_assoc, Json.skipChars]
      simp only [hdigits.read, bind, Except.bind]
      exact ih (by omega)

theorem IsChars.skipString {text : List Char} (hchars : IsChars text) (rest : List Char) :
    skipString (text ++ '"' :: rest) = .ok rest := by
  apply hchars.skipChars
  simp only [List.length_append]
  omega

/-! ## Numerals -/

theorem IsDigits.exists_cons {digits : List Char} (hdigits : IsDigits digits) :
    ∃ first more, digits = first :: more ∧ first.isDigit = true := by
  obtain ⟨first, more, rfl⟩ := List.exists_cons_of_ne_nil hdigits.ne_nil
  exact ⟨first, more, rfl, hdigits.all_digits first List.mem_cons_self⟩

/-- Whether a text goes on with something else than a digit. -/
def EndsDigits (rest : List Char) : Prop := ∀ c ∈ rest.head?, c.isDigit = false

theorem endsDigits_exponent {exponent rest : List Char} (hexponent : IsExponent exponent)
    (hrest : IsDelimited rest) : EndsDigits (exponent ++ rest) := by
  cases hexponent with
  | none => exact isDigit_eq_false_of_isDelimited hrest
  | digits hletter =>
      rintro c ⟨⟩
      rcases hletter with rfl | rfl <;> decide

theorem endsDigits_fraction {fraction rest : List Char} (hfraction : IsFraction fraction)
    (hrest : EndsDigits rest) : EndsDigits (fraction ++ rest) := by
  cases hfraction with
  | none => exact hrest
  | digits =>
      rintro c ⟨⟩
      decide

section Numerals

variable {rest : List Char}

theorem skipExponent_digits {sign digits : List Char}
    (hsign : sign = [] ∨ sign = ['+'] ∨ sign = ['-']) (hdigits : IsDigits digits)
    (hrest : EndsDigits rest) : skipExponent (sign ++ (digits ++ rest)) = .ok rest := by
  obtain ⟨first, more, rfl, hfirst⟩ := hdigits.exists_cons
  have hdrop := (digits_of_ends
    (fun c hmem => hdigits.all_digits c (List.mem_cons_of_mem _ hmem)) hrest).2
  rcases hsign with rfl | rfl | rfl
  · have hplus : first ≠ '+' := ne_of_isDigit hfirst (by decide)
    have hminus : first ≠ '-' := ne_of_isDigit hfirst (by decide)
    simp [skipExponent, hplus, hminus, hfirst, hdrop]
  · simp [skipExponent, hfirst, hdrop]
  · simp [skipExponent, hfirst, hdrop]

/-- An exponent is passed over, and so is the end of a numeral without one. -/
theorem IsExponent.skipNumberTail {exponent : List Char} (hexponent : IsExponent exponent)
    (hrest : IsDelimited rest) : skipNumberTail (exponent ++ rest) = .ok rest := by
  cases hexponent with
  | none =>
      rw [List.nil_append]
      unfold Json.skipNumberTail
      split
      · exact absurd (hrest '.' rfl) (by decide)
      · exact absurd (hrest 'e' rfl) (by decide)
      · exact absurd (hrest 'E' rfl) (by decide)
      · rfl
  | digits hletter hsign hdigits =>
      have hskip := skipExponent_digits hsign hdigits (isDigit_eq_false_of_isDelimited hrest)
      rw [List.cons_append, List.append_assoc]
      rcases hletter with rfl | rfl
      · exact hskip
      · exact hskip

theorem skipNumberTail_parts {fraction exponent : List Char} (hfraction : IsFraction fraction)
    (hexponent : IsExponent exponent) (hrest : IsDelimited rest) :
    skipNumberTail (fraction ++ (exponent ++ rest)) = .ok rest := by
  cases hfraction with
  | none => exact hexponent.skipNumberTail hrest
  | @digits digits hdigits =>
      obtain ⟨htake, hdrop⟩ :=
        digits_of_ends hdigits.all_digits (endsDigits_exponent hexponent hrest)
      obtain ⟨first, more, rfl, -⟩ := hdigits.exists_cons
      have htail := hexponent.skipNumberTail hrest
      rw [List.cons_append, skipNumberTail]
      simp only [htake, hdrop]
      -- behind the digits there is the same choice as at the end of a numeral without a point
      cases hexponent with
      | none =>
          rw [List.nil_append]
          split
          · next hnil => cases hnil
          · exact absurd (hrest 'e' rfl) (by decide)
          · exact absurd (hrest 'E' rfl) (by decide)
          · rfl
      | digits hletter =>
          rcases hletter with rfl | rfl
          · exact htail
          · exact htail

theorem IsNumeral.exists_cons {digits : List Char} (hdigits : IsNumeral digits) :
    ∃ first more, digits = first :: more ∧ first.isDigit = true := by
  obtain ⟨hwhole, -, -⟩ := hdigits
  cases hwhole with
  | zero => exact ⟨'0', _, rfl, by decide⟩
  | @digits first more _ hdigits =>
      exact ⟨first, _, rfl, hdigits.all_digits first List.mem_cons_self⟩

theorem IsNumeral.skipNumber {digits : List Char} (hdigits : IsNumeral digits)
    (hrest : IsDelimited rest) : skipNumber (digits ++ rest) = .ok rest := by
  obtain ⟨hwhole, hfraction, hexponent⟩ := hdigits
  rename_i whole fraction exponent
  have htail := skipNumberTail_parts hfraction hexponent hrest
  have hends := endsDigits_fraction hfraction (endsDigits_exponent hexponent hrest)
  rw [List.append_assoc, List.append_assoc]
  cases hwhole with
  | zero =>
      generalize fraction ++ (exponent ++ rest) = text at htail hends ⊢
      cases text with
      | nil => exact htail
      | cons c more =>
          have hc := hends c rfl
          simpa [Json.skipNumber, hc] using htail
  | @digits first more hfirst hdigits =>
      have hdrop := (digits_of_ends
        (fun c hmem => hdigits.all_digits c (List.mem_cons_of_mem _ hmem)) hends).2
      rw [List.cons_append, Json.skipNumber]
      · rw [if_pos (hdigits.all_digits first List.mem_cons_self), hdrop]
        exact htail
      · exact hfirst

end Numerals

/-! ## Steps -/

/-- Whether a text is passed over in so many steps where a value is expected, with any blanks in
front of it. -/
def PassesIn (steps : Nat) (text : List Char) : Prop :=
  ∀ fuel opened (blanks : Blanks) rest, IsDelimited rest →
    skipLoop (fuel + steps) .value opened (blanks.text ++ (text ++ rest)) =
      skipLoop fuel (.item false) opened rest

/-- What opens no container is passed over in one step. -/
theorem passesIn_one {c : Char} {more : List Char} (hspace : isSpace c = false) (harray : c ≠ '[')
    (hobject : c ≠ '\x7b')
    (hskip : ∀ rest, IsDelimited rest → skipScalar c (more ++ rest) = .ok rest) :
    PassesIn 1 (c :: more) := by
  intro fuel opened blanks rest hrest
  rw [List.cons_append, skipLoop, skipSpace_blanks, skipSpace_cons hspace]
  split
  · next hnil => cases hnil
  · next heq => exact absurd (List.cons.inj heq).1 harray
  · next heq => exact absurd (List.cons.inj heq).1 hobject
  · next heq =>
    obtain ⟨rfl, rfl⟩ := List.cons.inj heq
    rw [hskip rest hrest]
    rfl

theorem passesIn_signed (negative : Bool) {digits : List Char} (hdigits : IsNumeral digits) :
    PassesIn 1 (signed negative digits) := by
  have hskip (rest : List Char) := @IsNumeral.skipNumber rest digits hdigits
  cases negative with
  | true => exact passesIn_one rfl (by decide) (by decide) hskip
  | false =>
      obtain ⟨first, more, rfl, hfirst⟩ := hdigits.exists_cons
      refine passesIn_one (isSpace_eq_false_of_isDigit hfirst) (ne_of_isDigit hfirst (by decide))
        (ne_of_isDigit hfirst (by decide)) fun rest hrest => ?_
      rw [skipScalar, if_pos hfirst]
      · exact hskip rest hrest
      · exact ne_of_isDigit hfirst (by decide)
      · exact ne_of_isDigit hfirst (by decide)
      · exact ne_of_isDigit hfirst (by decide)
      · exact ne_of_isDigit hfirst (by decide)
      · exact ne_of_isDigit hfirst (by decide)

/-! ## Containers -/

/-- The bracket that closes a container. -/
def Container.closing : Container → Char
  | .array => ']'
  | .object => '\x7d'

/-- Whether the text of an item or a member is passed over in no more steps than twice its
characters, with its comma if there must be one. -/
def PassesAsItem (container : Container) (text : List Char) : Prop :=
  ∃ steps back, steps ≤ 2 * text.length ∧
    ∀ fuel first opened (blanks : Blanks) rest, IsDelimited rest →
      skipLoop (fuel + steps) (.item first) (container :: opened)
          (blanks.text ++ ((if first then [] else [',']) ++ (text ++ rest))) =
        skipLoop fuel (.item false) (container :: opened) (Blanks.text back ++ rest)

theorem skipLoop_close (container : Container) (fuel : Nat) (first : Bool)
    (opened : List Container) (blanks : Blanks) (rest : List Char) :
    skipLoop (fuel + 1) (.item first) (container :: opened)
        (blanks.text ++ container.closing :: rest) = skipLoop fuel (.item false) opened rest := by
  conv_lhs => unfold skipLoop
  rw [skipSpace_blanks]
  cases container <;> rfl

/-- All items of a container are passed over one after the other, and then its end. -/
theorem PassesAsItem.all {container : Container} {texts : List (List Char)}
    (htexts : ∀ text ∈ texts, PassesAsItem container text) (first : Bool) :
    ∃ steps, steps ≤ 2 * (continued first texts).length + 1 ∧
      ∀ fuel opened (blanks : Blanks) rest,
        skipLoop (fuel + steps) (.item first) (container :: opened)
            (blanks.text ++ (continued first texts ++ container.closing :: rest)) =
          skipLoop fuel (.item false) opened rest := by
  induction texts generalizing first with
  | nil =>
      exact ⟨1, by simp, fun fuel opened blanks rest =>
        skipLoop_close container fuel first opened blanks rest⟩
  | cons text texts ih =>
      obtain ⟨one, back, hone, hpass⟩ := htexts text List.mem_cons_self
      obtain ⟨more, hmore, hall⟩ :=
        ih (fun other hmem => htexts other (List.mem_cons_of_mem _ hmem)) false
      refine ⟨more + one, ?_, fun fuel opened blanks rest => ?_⟩
      · simp only [continued_cons, List.length_append]
        omega
      · have hclosing : container.closing = ']' ∨ container.closing = '\x7d' := by
          cases container
          · exact .inl rfl
          · exact .inr rfl
        rw [continued_cons, List.append_assoc, List.append_assoc, ← Nat.add_assoc,
          hpass _ _ _ _ _ (isDelimited_continued texts hclosing rest)]
        exact hall fuel opened back rest

/-- Behind the comma, if there must be one, the next item is passed over, be it with the blanks in
front of it or without. -/
theorem skipLoop_item {container : Container} {text : List Char} {c : Char} {more : List Char}
    (htext : skipSpace text = c :: more) (hc : c ≠ container.closing) {fuel : Nat}
    {opened : List Container} {result : Except Fault (List Char)}
    (hbare : skipName container (c :: more) >>= skipLoop fuel .value (container :: opened) = result)
    (hpadded : skipName container text >>= skipLoop fuel .value (container :: opened) = result)
    (first : Bool) (blanks : Blanks) :
    skipLoop (fuel + 1) (.item first) (container :: opened)
        (blanks.text ++ ((if first then [] else [',']) ++ text)) = result := by
  unfold skipLoop
  rw [skipSpace_blanks]
  cases first with
  | true =>
      rw [if_pos rfl, List.nil_append, htext]
      split
      · next hnil => cases hnil
      · next hnil => cases hnil
      · next heq => exact absurd (List.cons.inj heq).1 hc
      · next heq => exact absurd (List.cons.inj heq).1 hc
      · next heq _ _ =>
        obtain ⟨rfl, rfl⟩ := List.cons.inj heq
        exact hbare
  | false =>
      rw [if_neg Bool.false_ne_true, List.singleton_append, skipSpace_cons rfl]
      cases container <;> exact hpadded

theorem passesAsItem_array {item : Padded} {steps : Nat} (hopens : OpensValue item.inner)
    (hsteps : steps + 1 ≤ 2 * item.inner.length) (hpasses : PassesIn steps item.inner) :
    PassesAsItem .array item.text := by
  refine ⟨steps + 1, item.back, ?_, fun fuel first opened blanks rest hrest => ?_⟩
  · simp only [Padded.text, List.length_append]
    omega
  · have hpass (front : Blanks) := hpasses fuel (.array :: opened) front (item.back.text ++ rest)
      (isDelimited_blanks item.back hrest)
    obtain ⟨c, more, hinner, hspace, hc⟩ := hopens
    have hskip : skipSpace (item.text ++ rest) = c :: (more ++ (item.back.text ++ rest)) := by
      rw [Padded.text_append, skipSpace_blanks, hinner, List.cons_append, skipSpace_cons hspace]
    refine skipLoop_item hskip (show c ≠ Container.array.closing from hc) ?_ ?_ first blanks
    · have hbare := hpass .none
      rw [hinner] at hbare
      exact hbare
    · rw [Padded.text_append]
      exact hpass item.front

theorem passesAsItem_object {member : MemberText} {steps : Nat} (hname : IsChars member.name)
    (hsteps : steps + 1 ≤ 2 * member.value.inner.length)
    (hpasses : PassesIn steps member.value.inner) : PassesAsItem .object member.text := by
  refine ⟨steps + 1, member.value.back, ?_, fun fuel first opened blanks rest hrest => ?_⟩
  · simp only [MemberText.text, Padded.text, List.length_append, List.length_cons]
    omega
  · have hpass := hpasses fuel (.object :: opened) member.value.front
      (member.value.back.text ++ rest) (isDelimited_blanks member.value.back hrest)
    have hskip : skipSpace (member.text ++ rest) = '"' :: (member.name ++ '"' ::
        (member.gap.text ++ ':' :: (member.value.text ++ rest))) := by
      rw [MemberText.text, List.append_assoc, skipSpace_blanks, List.cons_append,
        skipSpace_cons rfl]
      simp
    have hafter (text : List Char) (htext : skipSpace text = skipSpace (member.text ++ rest)) :
        skipName .object text = .ok (member.value.text ++ rest) := by
      unfold skipName
      rw [htext, hskip]
      simp only [bind, Except.bind, hname.skipString, readColon_blanks]
    refine skipLoop_item hskip (show '"' ≠ Container.object.closing by decide) ?_ ?_ first blanks
    · rw [hafter _ (by rw [← hskip, skipSpace_skipSpace]), Padded.text_append]
      exact hpass
    · rw [hafter _ rfl, Padded.text_append]
      exact hpass

/-! ## Values -/

theorem opensValue_signed (negative : Bool) {digits : List Char} (hdigits : IsNumeral digits) :
    OpensValue (signed negative digits) := by
  obtain ⟨first, more, rfl, hfirst⟩ := hdigits.exists_cons
  cases negative with
  | true => exact ⟨'-', _, rfl, rfl, by decide⟩
  | false =>
      exact ⟨first, more, rfl, isSpace_eq_false_of_isDigit hfirst, ne_of_isDigit hfirst (by decide)⟩

/-- A container is passed over when all its items are. -/
theorem passesIn_container {container : Container} {opening : Char} {texts : List (List Char)}
    (hopening : ∀ fuel opened (front : Blanks) rest,
      skipLoop (fuel + 1) .value opened (front.text ++ opening :: rest) =
        skipLoop fuel (.item true) (container :: opened) rest)
    (htexts : ∀ text ∈ texts, PassesAsItem container text) (blanks : Blanks) :
    ∃ steps, steps + 1 ≤ 2 *
        (opening :: (blanks.text ++ (commaSeparated texts ++ [container.closing]))).length ∧
      PassesIn steps
        (opening :: (blanks.text ++ (commaSeparated texts ++ [container.closing]))) := by
  obtain ⟨steps, hsteps, hall⟩ := PassesAsItem.all htexts true
  rw [continued_true] at hsteps
  refine ⟨steps + 1, ?_, fun fuel opened front rest _ => ?_⟩
  · simp only [List.length_cons, List.length_append]
    omega
  · have hskip := hall fuel opened blanks rest
    rw [continued_true] at hskip
    rw [List.cons_append, ← Nat.add_assoc, hopening, ← hskip]
    simp only [List.append_assoc, List.singleton_append]

/-- Every value is passed over in fewer steps than twice its characters. -/
theorem IsValue.exists_passesIn {text : List Char} (hvalue : IsValue text) :
    OpensValue text ∧ ∃ steps, steps + 1 ≤ 2 * text.length ∧ PassesIn steps text := by
  induction hvalue with
  | null =>
      exact ⟨⟨'n', _, rfl, rfl, by decide⟩, 1, by decide,
        passesIn_one rfl (by decide) (by decide) fun _ _ => rfl⟩
  | boolean value =>
      cases value with
      | false =>
          exact ⟨⟨'f', _, rfl, rfl, by decide⟩, 1, by decide,
            passesIn_one rfl (by decide) (by decide) fun _ _ => rfl⟩
      | true =>
          exact ⟨⟨'t', _, rfl, rfl, by decide⟩, 1, by decide,
            passesIn_one rfl (by decide) (by decide) fun _ _ => rfl⟩
  | numeral negative hdigits =>
      have hopens := opensValue_signed negative hdigits
      have hlength := List.length_pos_iff.2 hopens.ne_nil
      exact ⟨hopens, 1, by omega, passesIn_signed negative hdigits⟩
  | @string text hchars =>
      refine ⟨⟨'"', _, rfl, rfl, by decide⟩, 1, by simp only [List.length_cons]; omega, ?_⟩
      refine passesIn_one rfl (by decide) (by decide) fun rest _ => ?_
      rw [List.append_assoc]
      exact hchars.skipString rest
  | @array blanks items _ ih =>
      refine ⟨⟨'[', _, rfl, rfl, by decide⟩, @passesIn_container .array _ _ ?_ ?_ blanks⟩
      · intro fuel opened front rest
        conv_lhs => unfold skipLoop
        rw [skipSpace_blanks]
        rfl
      · exact List.forall_mem_map.2 fun item hmem =>
          let ⟨hopens, _, hsteps, hpasses⟩ := ih item hmem
          passesAsItem_array hopens hsteps hpasses
  | @object blanks members hnames _ ih =>
      refine ⟨⟨'\x7b', _, rfl, rfl, by decide⟩, @passesIn_container .object _ _ ?_ ?_ blanks⟩
      · intro fuel opened front rest
        conv_lhs => unfold skipLoop
        rw [skipSpace_blanks]
        rfl
      · exact List.forall_mem_map.2 fun member hmem =>
          let ⟨_, _, hsteps, hpasses⟩ := ih member hmem
          passesAsItem_object (hnames member hmem) hsteps hpasses

/-- Every value is passed over, with the blanks in front of it. -/
theorem IsValue.skipValue {padded : Padded} (hvalue : IsValue padded.inner) {rest : List Char}
    (hrest : IsDelimited rest) :
    skipValue (padded.text ++ rest) = .ok (padded.back.text ++ rest) := by
  obtain ⟨-, steps, hsteps, hpasses⟩ := hvalue.exists_passesIn
  obtain ⟨fuel, hfuel⟩ : ∃ fuel, 2 * (padded.text ++ rest).length + 2 = fuel + 1 + steps := by
    refine ⟨2 * (padded.text ++ rest).length + 2 - steps - 1, ?_⟩
    simp only [Padded.text, List.length_append]
    omega
  rw [Json.skipValue, hfuel, Padded.text_append,
    hpasses _ _ _ _ (isDelimited_blanks padded.back hrest)]
  rfl

end ClassroomClient.Json
