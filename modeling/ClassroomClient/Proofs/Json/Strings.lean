/-
# Strings in JSON texts

A string can be spelled in many ways, every character standing for itself or being escaped.
`SpellsChars` says which characters a text between quotes spells, without any reader. Whatever the
spelling, it is read as these characters. The text that is written of a string is one of its
spellings.
-/

import ClassroomClient.Json.Reader
import ClassroomClient.Proofs.Text

namespace ClassroomClient.Json

/-! ## Spellings -/

/-- Four hexadecimal digits and the number that they stand for. -/
inductive HexUnit : List Char → Nat → Prop
  | digits {a b c d : Char} {va vb vc vd : Nat} (ha : Text.hexDigit? a = some va)
      (hb : Text.hexDigit? b = some vb) (hc : Text.hexDigit? c = some vc)
      (hd : Text.hexDigit? d = some vd) :
      HexUnit [a, b, c, d] (((va * 16 + vb) * 16 + vc) * 16 + vd)

/-- A text between quotes and the characters that it spells. A character stands for itself, or it
is escaped by a letter, by the number of its UTF-16 unit, or by those of its two units. -/
inductive SpellsChars : List Char → List Char → Prop
  | nil : SpellsChars [] []
  | plain {c : Char} {text chars : List Char} (hquote : c ≠ '"') (hbackslash : c ≠ '\\')
      (hcontrol : ¬ c.toNat < 0x20) (hmore : SpellsChars text chars) :
      SpellsChars (c :: text) (c :: chars)
  | letter {letter c : Char} {text chars : List Char} (hletter : simpleEscape? letter = some c)
      (hmore : SpellsChars text chars) : SpellsChars ('\\' :: letter :: text) (c :: chars)
  | unit {digits : List Char} {unit : Nat} {text chars : List Char}
      (hdigits : HexUnit digits unit) (hleading : isLeadingUnit unit = false)
      (htrailing : isTrailingUnit unit = false) (hmore : SpellsChars text chars) :
      SpellsChars ('\\' :: 'u' :: (digits ++ text)) (Char.ofNat unit :: chars)
  | pair {first second : List Char} {leading trailing : Nat} {text chars : List Char}
      (hfirst : HexUnit first leading) (hsecond : HexUnit second trailing)
      (hleading : isLeadingUnit leading = true) (htrailing : isTrailingUnit trailing = true)
      (hmore : SpellsChars text chars) :
      SpellsChars ('\\' :: 'u' :: (first ++ '\\' :: 'u' :: (second ++ text)))
        (Char.ofNat ((leading - 0xD800) * 0x400 + (trailing - 0xDC00) + 0x10000) :: chars)

/-! ## Escapes -/

/-- Four digits are four bytes at least, so they are looked at. -/
theorem HexUnit.read {digits : List Char} {unit : Nat} (hdigits : HexUnit digits unit)
    (rest : List Char) : readHexUnit (digits ++ rest) = .ok (unit, rest) := by
  obtain ⟨ha, hb, hc, hd⟩ := hdigits
  rename_i a b c d _ _ _ _
  have hbytes : ¬ Text.utf8Length ([a, b, c, d] ++ rest) < 4 := by
    have hapos := Char.utf8Size_pos a
    have hbpos := Char.utf8Size_pos b
    have hcpos := Char.utf8Size_pos c
    have hdpos := Char.utf8Size_pos d
    simp only [List.cons_append, Text.utf8Length_cons]
    omega
  rw [readHexUnit, if_neg hbytes]
  simp only [List.cons_append, List.nil_append, ha, hb, hc, hd]

theorem readEscape_of_letter {letter c : Char} (hletter : simpleEscape? letter = some c)
    (rest : List Char) : readEscape (letter :: rest) = .ok (c, rest) := by
  rw [readEscape, hletter]

theorem HexUnit.readEscape_alone {digits : List Char} {unit : Nat} (hdigits : HexUnit digits unit)
    (hleading : isLeadingUnit unit = false) (htrailing : isTrailingUnit unit = false)
    (rest : List Char) :
    readEscape ('u' :: (digits ++ rest)) = .ok (Char.ofNat unit, rest) := by
  have hletter : simpleEscape? 'u' = none := by decide
  rw [readEscape, hletter]
  simp only [beq_self_eq_true, if_true, hdigits.read, bind, Except.bind, htrailing, hleading,
    Bool.false_eq_true, if_false]
  rfl

theorem HexUnit.readEscape_pair {first second : List Char} {leading trailing : Nat}
    (hfirst : HexUnit first leading) (hsecond : HexUnit second trailing)
    (hleading : isLeadingUnit leading = true) (htrailing : isTrailingUnit trailing = true)
    (rest : List Char) :
    readEscape ('u' :: (first ++ '\\' :: 'u' :: (second ++ rest))) =
      .ok (Char.ofNat ((leading - 0xD800) * 0x400 + (trailing - 0xDC00) + 0x10000), rest) := by
  have hletter : simpleEscape? 'u' = none := by decide
  have hnot : isTrailingUnit leading = false := by
    simp only [isLeadingUnit, isTrailingUnit, Bool.and_eq_true, decide_eq_true_eq,
      Bool.and_eq_false_iff, decide_eq_false_iff_not] at hleading ⊢
    omega
  rw [readEscape, hletter]
  simp only [beq_self_eq_true, if_true, hfirst.read, bind, Except.bind, hnot, hleading,
    Bool.false_eq_true, if_false]
  rw [readTrailingUnit]
  simp only [bind, Except.bind, hsecond.read, htrailing, if_true]
  rfl

/-! ## Reading -/

section Chars

variable {fuel : Nat} {c : Char} {chars text rest after : List Char}

theorem readChars_escape (hescape : readEscape text = .ok (c, rest))
    (hmore : readChars fuel rest = .ok (chars, after)) :
    readChars (fuel + 1) ('\\' :: text) = .ok (c :: chars, after) := by
  rw [readChars]
  simp only [bind, Except.bind, hescape, hmore]
  rfl

theorem readChars_plain (hquote : c ≠ '"') (hbackslash : c ≠ '\\') (hcontrol : ¬ c.toNat < 0x20)
    (hmore : readChars fuel rest = .ok (chars, after)) :
    readChars (fuel + 1) (c :: rest) = .ok (c :: chars, after) := by
  rw [readChars]
  · simp only [if_neg hcontrol, bind, Except.bind, hmore]
    rfl
  · exact hquote
  · exact hbackslash

/-- Every character is read by one step, and it takes one character of the text at least. -/
theorem SpellsChars.readChars (hspells : SpellsChars text chars) (hfuel : text.length < fuel)
    (rest : List Char) : readChars fuel (text ++ '"' :: rest) = .ok (chars, rest) := by
  induction hspells generalizing fuel with
  | nil =>
      obtain ⟨more, rfl⟩ : ∃ more, fuel = more + 1 := ⟨fuel - 1, by omega⟩
      rfl
  | plain hquote hbackslash hcontrol _ ih =>
      obtain ⟨more, rfl⟩ : ∃ more, fuel = more + 1 := ⟨fuel - 1, by omega⟩
      exact readChars_plain hquote hbackslash hcontrol (ih (by simpa using hfuel))
  | letter hletter _ ih =>
      obtain ⟨more, rfl⟩ : ∃ more, fuel = more + 1 := ⟨fuel - 1, by omega⟩
      simp only [List.length_cons] at hfuel
      exact readChars_escape (readEscape_of_letter hletter _) (ih (by omega))
  | unit hdigits hleading htrailing _ ih =>
      obtain ⟨more, rfl⟩ : ∃ more, fuel = more + 1 := ⟨fuel - 1, by omega⟩
      simp only [List.length_cons, List.length_append] at hfuel
      simp only [List.cons_append, List.append_assoc]
      exact readChars_escape (hdigits.readEscape_alone hleading htrailing _) (ih (by omega))
  | pair hfirst hsecond hleading htrailing _ ih =>
      obtain ⟨more, rfl⟩ : ∃ more, fuel = more + 1 := ⟨fuel - 1, by omega⟩
      simp only [List.length_cons, List.length_append] at hfuel
      simp only [List.cons_append, List.append_assoc]
      exact readChars_escape (hfirst.readEscape_pair hsecond hleading htrailing _)
        (ih (by omega))

end Chars

/-- A string is read from any of its spellings, behind the opening quote. -/
theorem SpellsChars.readString {text : List Char} {value : String}
    (hspells : SpellsChars text value.toList) (rest : List Char) :
    readString (text ++ '"' :: rest) = .ok (value, rest) := by
  have hfuel : text.length < (text ++ '"' :: rest).length + 1 := by
    simp only [List.length_append]
    omega
  simp only [Json.readString, bind, Except.bind, hspells.readChars hfuel rest]
  exact congrArg (fun text => Except.ok (text, rest)) String.ofList_toList

/-! ## Strings that are written -/

theorem hexDigit?_digitChar {n : Nat} (hn : n < 16) :
    Text.hexDigit? (Nat.digitChar n) = some n := by
  have hall : ∀ m < 16, Text.hexDigit? (Nat.digitChar m) = some m := by decide
  exact hall n hn

/-- The two digits that are written of a small number, behind two zeros. -/
theorem hexUnit_twoHexDigits {n : Nat} (hn : n < 0x20) :
    HexUnit ('0' :: '0' :: twoHexDigits n) n := by
  have hzero : Text.hexDigit? '0' = some 0 := by decide
  have hunit := HexUnit.digits hzero hzero (hexDigit?_digitChar (show n / 16 % 16 < 16 by omega))
    (hexDigit?_digitChar (show n % 16 < 16 by omega))
  have hvalue : ((0 * 16 + 0) * 16 + n / 16 % 16) * 16 + n % 16 = n := by omega
  rwa [hvalue] at hunit

/-- One written character spells itself. -/
theorem SpellsChars.stringChar (c : Char) {text chars : List Char}
    (hmore : SpellsChars text chars) : SpellsChars (stringChar c ++ text) (c :: chars) := by
  fun_cases Json.stringChar c with
  | case1 | case2 | case3 | case4 | case5 | case6 | case7 => exact .letter rfl hmore
  | case8 _ hcontrol =>
      have hleading : isLeadingUnit c.toNat = false := by
        simp only [isLeadingUnit, Bool.and_eq_false_iff, decide_eq_false_iff_not]
        omega
      have htrailing : isTrailingUnit c.toNat = false := by
        simp only [isTrailingUnit, Bool.and_eq_false_iff, decide_eq_false_iff_not]
        omega
      have hunit := SpellsChars.unit (hexUnit_twoHexDigits hcontrol) hleading htrailing hmore
      rw [Char.ofNat_toNat] at hunit
      rw [if_pos hcontrol]
      exact hunit
  | case9 _ hcontrol hquote hbackslash =>
      rw [if_neg hcontrol]
      exact .plain hquote hbackslash hcontrol hmore

/-- The text that is written of a string spells it. -/
theorem spellsChars_flatMap (chars : List Char) :
    SpellsChars (chars.flatMap stringChar) chars := by
  induction chars with
  | nil => exact .nil
  | cons c chars ih => exact ih.stringChar c

end ClassroomClient.Json
