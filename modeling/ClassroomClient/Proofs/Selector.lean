/-
# Quoted values in selectors

What a text between double quotes stands for in a selector. A backslash leaves out a line end,
writes a character by its number or takes the next character as it is, and other characters stand
for themselves. The text of a selector for an id is a test of this attribute for the value that the
id spells, which is the id itself if it holds none of the characters with a meaning of their own.
-/

import ClassroomClient.Fragment
import Mathlib.Data.List.Basic

namespace ClassroomClient.Selector

/-! ## Spelled values -/

/-- A character as it is read. The null character cannot be written. -/
def shown (c : Char) : Char := if c == '\x00' then replacement else c

/-- A single character of a kind. A carriage return with its line feed counts as one. -/
inductive IsSingle (kind : Char → Bool) : List Char → Prop
  | one {c : Char} (hkind : kind c = true) : IsSingle kind [c]
  | pair : IsSingle kind ['\r', '\n']

/-- The number of a character, as up to six digits. -/
structure IsCode (digits : List Char) : Prop where
  length_pos : 0 < digits.length
  length_le : digits.length ≤ 6
  isDigit : ∀ c ∈ digits, (Text.hexDigit? c).isSome = true

/-- A text between double quotes and the characters that it spells. The number of a character ends
with a blank, or with its last digit where neither a blank nor a digit more can be meant. -/
inductive Spells : List Char → List Char → Prop
  | nil : Spells [] []
  | plain {c : Char} {text chars : List Char} (hquote : c ≠ '"') (hbackslash : c ≠ '\\')
      (hline : isLineEnd c = false) (hmore : Spells text chars) :
      Spells (c :: text) (shown c :: chars)
  | continued {line text chars : List Char} (hline : IsSingle isLineEnd line)
      (hmore : Spells text chars) : Spells ('\\' :: (line ++ text)) chars
  | escaped {c : Char} {text chars : List Char} (hline : isLineEnd c = false)
      (hhex : Text.hexDigit? c = none) (hmore : Spells text chars) :
      Spells ('\\' :: c :: text) (shown c :: chars)
  | number {digits text chars : List Char} (hcode : IsCode digits)
      (hnext : ∀ c, text.head? = some c →
        isSpace c = false ∧ (digits.length = 6 ∨ Text.hexDigit? c = none))
      (hmore : Spells text chars) :
      Spells ('\\' :: (digits ++ text)) (writtenChar (Text.hexValue digits) :: chars)
  | numberEnded {digits blank text chars : List Char} (hcode : IsCode digits)
      (hblank : IsSingle isSpace blank) (hmore : Spells text chars) :
      Spells ('\\' :: (digits ++ (blank ++ text))) (writtenChar (Text.hexValue digits) :: chars)

/-- Stands for itself between double quotes. -/
def isPlain (c : Char) : Bool := c != '"' && c != '\\' && !isLineEnd c && c != '\x00'

/-- A text of plain characters spells itself. -/
theorem spells_self {text : List Char} (hplain : ∀ c ∈ text, isPlain c = true) :
    Spells text text := by
  induction text with
  | nil => exact .nil
  | cons c rest ih =>
      obtain ⟨hc, hrest⟩ := List.forall_mem_cons.1 hplain
      simp only [isPlain, Bool.and_eq_true, bne_iff_ne, Bool.not_eq_true'] at hc
      obtain ⟨⟨⟨hquote, hbackslash⟩, hline⟩, hnull⟩ := hc
      have hshown : shown c = c := by simp [shown, hnull]
      have hspells := Spells.plain hquote hbackslash hline (ih hrest)
      rwa [hshown] at hspells

/-! ## Reading them -/

theorem IsSingle.exists_cons {kind : Char → Bool} {line : List Char} (hline : IsSingle kind line)
    (hreturn : kind '\r' = true) : ∃ c rest, line = c :: rest ∧ kind c = true := by
  cases hline with
  | one hkind => exact ⟨_, _, rfl, hkind⟩
  | pair => exact ⟨_, _, rfl, hreturn⟩

theorem dropLineEnd_of_isSingle {kind : Char → Bool} {line rest : List Char}
    (hline : IsSingle kind line) (hrest : rest.head? ≠ some '\n') :
    dropLineEnd (line ++ rest) = rest := by
  cases hline with
  | one =>
      rw [List.singleton_append, dropLineEnd.eq_def]
      split
      · next heq =>
        rw [(List.cons.inj heq).2] at hrest
        exact absurd rfl hrest
      · next heq => exact (List.cons.inj heq).2.symm
      · next heq => cases heq
  | pair => rfl

/-- What a spelled text starts with is not a line end. -/
theorem Spells.isLineEnd_of_head? {text chars : List Char} (hspells : Spells text chars) {c : Char}
    (hhead : text.head? = some c) : isLineEnd c = false := by
  cases hspells with
  | nil => cases hhead
  | plain _ _ hline =>
      cases hhead
      exact hline
  | continued | escaped | number | numberEnded =>
      cases hhead
      decide

/-- Before the quote at its end a spelled text does not start with a line end either. -/
theorem Spells.head?_append_ne {text chars : List Char} (hspells : Spells text chars)
    (tail : List Char) : (text ++ '"' :: tail).head? ≠ some '\n' := by
  intro hhead
  cases text with
  | nil => cases hhead
  | cons c rest =>
      cases hhead
      exact absurd (hspells.isLineEnd_of_head? rfl) (by decide)

theorem readEscaped_of_none {c : Char} {rest : List Char} (hhex : Text.hexDigit? c = none) :
    readEscaped (c :: rest) = (shown c, rest) := by
  simp [readEscaped, hhex, shown]

/-- The digits of a number are read up to the sixth one or to the first other character. -/
theorem IsCode.readEscaped {digits : List Char} {next : Char} (hcode : IsCode digits)
    (hnext : digits.length = 6 ∨ Text.hexDigit? next = none) (rest : List Char) :
    readEscaped (digits ++ next :: rest) =
      (writtenChar (Text.hexValue digits),
        if isSpace next then dropLineEnd (next :: rest) else next :: rest) := by
  have htake : ((digits ++ next :: rest).take 6).takeWhile (fun c => (Text.hexDigit? c).isSome) =
      digits := by
    rw [List.take_append, List.take_of_length_le hcode.length_le,
      List.takeWhile_append_of_pos hcode.isDigit]
    rcases hnext with hsix | hnone
    · simp [hsix]
    · cases 6 - digits.length <;> simp [hnone]
  cases digits with
  | nil => cases hcode.length_pos
  | cons digit others =>
      have hdigit := hcode.isDigit digit List.mem_cons_self
      rw [List.cons_append] at htake ⊢
      rw [Selector.readEscaped, if_pos hdigit, htake, ← List.cons_append]
      simp only [List.drop_left]

/-- A hexadecimal digit is not blank. -/
theorem hexDigit?_of_isSpace {c : Char} (hspace : isSpace c = true) : Text.hexDigit? c = none := by
  simp only [isSpace, isLineEnd, Bool.or_eq_true, beq_iff_eq] at hspace
  obtain (rfl | rfl) | (rfl | rfl) | rfl := hspace <;> rfl

theorem IsCode.exists_cons {digits : List Char} (hcode : IsCode digits) :
    ∃ digit others, digits = digit :: others ∧ isLineEnd digit = false := by
  cases digits with
  | nil => cases hcode.length_pos
  | cons digit others =>
      refine ⟨digit, others, rfl, ?_⟩
      have hdigit := hcode.isDigit digit List.mem_cons_self
      by_contra hline
      have hspace : isSpace digit = true := by simp [isSpace, eq_true_of_ne_false hline]
      rw [hexDigit?_of_isSpace hspace] at hdigit
      cases hdigit

variable {text chars rest tail : List Char} {fuel : Nat}

theorem readString_plain {c : Char} (hquote : c ≠ '"') (hbackslash : c ≠ '\\')
    (hline : isLineEnd c = false) (hmore : readString '"' fuel rest = (some chars, tail)) :
    readString '"' (fuel + 1) (c :: rest) = (some (shown c :: chars), tail) := by
  simp [readString, hquote, hbackslash, hline, hmore, shown]

theorem readString_escape {c next : Char} {behind : List Char} (hline : isLineEnd next = false)
    (hescaped : readEscaped (next :: rest) = (c, behind))
    (hmore : readString '"' fuel behind = (some chars, tail)) :
    readString '"' (fuel + 1) ('\\' :: next :: rest) = (some (c :: chars), tail) := by
  have hbackslash : isLineEnd '\\' = false := by decide
  simp [readString, hbackslash, hline, hescaped, hmore]

theorem readString_continued {line : List Char} (hline : IsSingle isLineEnd line)
    (hrest : rest.head? ≠ some '\n') (hmore : readString '"' fuel rest = (some chars, tail)) :
    readString '"' (fuel + 1) ('\\' :: (line ++ rest)) = (some chars, tail) := by
  have hbackslash : isLineEnd '\\' = false := by decide
  have hdrop := dropLineEnd_of_isSingle hline hrest
  obtain ⟨next, others, rfl, hnext⟩ := hline.exists_cons rfl
  rw [List.cons_append] at hdrop ⊢
  simp [readString, hbackslash, hnext, hdrop, hmore]

/-- A number whose digits end by themselves. -/
theorem readString_number {digits : List Char} {next : Char} (hcode : IsCode digits)
    (hspace : isSpace next = false) (hnext : digits.length = 6 ∨ Text.hexDigit? next = none)
    (hmore : readString '"' fuel (next :: rest) = (some chars, tail)) :
    readString '"' (fuel + 1) ('\\' :: (digits ++ next :: rest)) =
      (some (writtenChar (Text.hexValue digits) :: chars), tail) := by
  have hescaped := hcode.readEscaped hnext rest
  rw [hspace, if_neg Bool.false_ne_true] at hescaped
  obtain ⟨digit, others, rfl, hline⟩ := hcode.exists_cons
  exact readString_escape hline hescaped hmore

/-- A number with a blank at its end. -/
theorem readString_numberEnded {digits blank : List Char} (hcode : IsCode digits)
    (hblank : IsSingle isSpace blank) (hrest : rest.head? ≠ some '\n')
    (hmore : readString '"' fuel rest = (some chars, tail)) :
    readString '"' (fuel + 1) ('\\' :: (digits ++ (blank ++ rest))) =
      (some (writtenChar (Text.hexValue digits) :: chars), tail) := by
  have hdrop := dropLineEnd_of_isSingle hblank hrest
  obtain ⟨next, more, rfl, hspace⟩ := hblank.exists_cons (by decide)
  have hescaped := hcode.readEscaped (.inr (hexDigit?_of_isSpace hspace)) (more ++ rest)
  rw [if_pos hspace, ← List.cons_append, hdrop] at hescaped
  obtain ⟨digit, others, rfl, hline⟩ := hcode.exists_cons
  exact readString_escape hline hescaped hmore

/-- What a text spells is read up to the quote behind it. -/
theorem Spells.readString (hspells : Spells text chars) (hfuel : text.length < fuel)
    (tail : List Char) : readString '"' fuel (text ++ '"' :: tail) = (some chars, tail) := by
  induction hspells generalizing fuel with
  | nil =>
      obtain ⟨fuel, rfl⟩ := Nat.exists_eq_add_one.2 hfuel
      rfl
  | plain hquote hbackslash hline _ ih =>
      obtain ⟨fuel, rfl⟩ := Nat.exists_eq_add_one_of_ne_zero (Nat.ne_zero_of_lt hfuel)
      exact readString_plain hquote hbackslash hline (ih (by simpa using hfuel))
  | continued hline hmore ih =>
      obtain ⟨fuel, rfl⟩ := Nat.exists_eq_add_one_of_ne_zero (Nat.ne_zero_of_lt hfuel)
      rw [List.cons_append, List.append_assoc]
      refine readString_continued hline (hmore.head?_append_ne tail) (ih ?_)
      simp only [List.length_cons, List.length_append] at hfuel
      omega
  | escaped hline hhex _ ih =>
      obtain ⟨fuel, rfl⟩ := Nat.exists_eq_add_one_of_ne_zero (Nat.ne_zero_of_lt hfuel)
      refine readString_escape hline (readEscaped_of_none hhex) (ih ?_)
      simp only [List.length_cons] at hfuel
      omega
  | @number digits text chars hcode hnext _ ih =>
      obtain ⟨fuel, rfl⟩ := Nat.exists_eq_add_one_of_ne_zero (Nat.ne_zero_of_lt hfuel)
      have hread : Selector.readString '"' fuel (text ++ '"' :: tail) = (some chars, tail) := by
        apply ih
        simp only [List.length_cons, List.length_append] at hfuel
        omega
      -- Behind the digits stands a character of the text, or the quote at its end.
      obtain ⟨next, rest, hrest, hspace, hdigits⟩ : ∃ next rest,
          text ++ '"' :: tail = next :: rest ∧
            isSpace next = false ∧ (digits.length = 6 ∨ Text.hexDigit? next = none) := by
        cases text with
        | nil => exact ⟨'"', tail, rfl, by decide, .inr rfl⟩
        | cons next others => exact ⟨next, others ++ '"' :: tail, rfl, hnext next rfl⟩
      rw [hrest] at hread
      rw [List.cons_append, List.append_assoc, hrest]
      exact readString_number hcode hspace hdigits hread
  | numberEnded hcode hblank hmore ih =>
      obtain ⟨fuel, rfl⟩ := Nat.exists_eq_add_one_of_ne_zero (Nat.ne_zero_of_lt hfuel)
      rw [List.cons_append, List.append_assoc, List.append_assoc]
      refine readString_numberEnded hcode hblank (hmore.head?_append_ne tail) (ih ?_)
      simp only [List.length_cons, List.length_append] at hfuel
      omega

/-- A line end breaks off what is read. -/
theorem readString_lineEnd {front : List Char} {c : Char}
    (hfront : ∀ c ∈ front, c ≠ '"' ∧ c ≠ '\\') (hline : isLineEnd c = true)
    (hfuel : front.length < fuel) (rest : List Char) :
    ∃ behind, readString '"' fuel (front ++ c :: rest) = (none, behind) := by
  induction front generalizing fuel with
  | nil =>
      obtain ⟨fuel, rfl⟩ := Nat.exists_eq_add_one.2 hfuel
      have hquote : c ≠ '"' := by
        rintro rfl
        cases hline
      exact ⟨c :: rest, by simp [Selector.readString, hquote, hline]⟩
  | cons first others ih =>
      obtain ⟨fuel, rfl⟩ := Nat.exists_eq_add_one_of_ne_zero (Nat.ne_zero_of_lt hfuel)
      obtain ⟨⟨hquote, hbackslash⟩, hothers⟩ := List.forall_mem_cons.1 hfront
      have hshorter : others.length < fuel := by simpa using hfuel
      obtain ⟨behind, hread⟩ := ih hothers hshorter
      by_cases hfirst : isLineEnd first = true
      · exact ⟨first :: (others ++ c :: rest), by simp [Selector.readString, hquote, hfirst]⟩
      · exact ⟨behind, by simp [Selector.readString, hquote, hbackslash, hfirst, hread]⟩

/-! ## The selector for an id -/

/-- The chain that tests elements for an id. -/
def idChain (id : String) : Chain :=
  .first [.attributeTest { name := "id", comparison := some (.equal, id) }]

theorem toList_idSelector (elementId : String) :
    (idSelector elementId).toList =
      '[' :: 'i' :: 'd' :: '=' :: '"' :: (elementId.toList ++ ['"', ']']) := by
  simp [idSelector]

/-- The tokens of the selector. The fuel that is left suffices for the id and the end. -/
theorem tokensOf_idSelector (elementId : String) :
    tokensOf (idSelector elementId) =
      .opening '[' :: .name "id" :: .delimiter '=' ::
        readTokens (elementId.toList.length + 4) ('"' :: (elementId.toList ++ ['"', ']'])) := by
  have hlength : (idSelector elementId).toList.length = elementId.toList.length + 4 + 3 := by
    simp [toList_idSelector]
  rw [tokensOf, hlength, toList_idSelector]
  rfl

/-- A quote starts a string, or what is none. -/
theorem readTokens_quote (fuel : Nat) (rest : List Char) :
    readTokens (fuel + 1) ('"' :: rest) =
      match readString '"' (rest.length + 1) rest with
      | (some value, behind) => .string (String.ofList value) :: readTokens fuel behind
      | (none, behind) => .badString :: readTokens fuel behind := by
  have hstep : readTokens (fuel + 1) ('"' :: rest) =
      (readToken '"' rest).1 :: readTokens fuel (readToken '"' rest).2 := rfl
  have htoken : readToken '"' rest = match readString '"' (rest.length + 1) rest with
      | (some value, behind) => (.string (String.ofList value), behind)
      | (none, behind) => (.badString, behind) := rfl
  rw [hstep, htoken]
  rcases readString '"' (rest.length + 1) rest with ⟨_ | value, behind⟩ <;> rfl

/-- The selector for an id tests for the value that the id spells. -/
theorem ofText?_idSelector {elementId id : String} (hspells : Spells elementId.toList id.toList) :
    ofText? (idSelector elementId) = some [idChain id] := by
  have hfuel : elementId.toList.length < (elementId.toList ++ ['"', ']']).length + 1 := by
    rw [List.length_append]
    omega
  have hread := hspells.readString hfuel [']']
  have htokens : tokensOf (idSelector elementId) =
      [.opening '[', .name "id", .delimiter '=', .string id, .closing ']'] := by
    rw [tokensOf_idSelector, readTokens_quote, hread]
    simp only [String.ofList_toList]
    rfl
  rw [ofText?, htokens]
  rfl

/-- Puts a token before the first part. -/
def prepend (token : Token) : List (List Token) → List (List Token)
  | part :: parts => (token :: part) :: parts
  | [] => [[token]]

/-- The tokens up to a string that is none stand in the first part between commas. -/
theorem splitCommas_badString (rest : List Token) :
    ∃ part parts, splitCommas []
        (.opening '[' :: .name "id" :: .delimiter '=' :: .badString :: rest) =
      (.opening '[' :: .name "id" :: .delimiter '=' :: .badString :: part) :: parts := by
  have hsplit : splitCommas []
        (.opening '[' :: .name "id" :: .delimiter '=' :: .badString :: rest) =
      prepend (.opening '[') (prepend (.name "id") (prepend (.delimiter '=')
        (prepend .badString (splitCommas [']'] rest)))) := rfl
  rw [hsplit]
  cases splitCommas [']'] rest with
  | nil => exact ⟨[], [], rfl⟩
  | cons part parts => exact ⟨part, parts, rfl⟩

/-- What is no string is no value of an attribute. -/
theorem wholeChain?_badString (fuel : Nat) (rest : List Token) :
    wholeChain? false (fuel + 2) none
      (.opening '[' :: .name "id" :: .delimiter '=' :: .badString :: rest) = none := rfl

/-- Where a line end breaks off the id, the selector is none. -/
theorem ofText?_idSelector_lineEnd {elementId : String} {front rest : List Char} {c : Char}
    (helementId : elementId.toList = front ++ c :: rest)
    (hfront : ∀ c ∈ front, c ≠ '"' ∧ c ≠ '\\') (hline : isLineEnd c = true) :
    ofText? (idSelector elementId) = none := by
  have hfuel : front.length < (elementId.toList ++ ['"', ']']).length + 1 := by
    rw [helementId, List.length_append, List.length_append]
    omega
  obtain ⟨behind, hread⟩ := readString_lineEnd hfront hline hfuel (rest ++ ['"', ']'])
  rw [← List.cons_append, ← List.append_assoc, ← helementId] at hread
  rw [ofText?, tokensOf_idSelector, readTokens_quote, hread]
  obtain ⟨part, parts, hparts⟩ :=
    splitCommas_badString (readTokens (elementId.toList.length + 3) behind)
  simp only [hparts, List.mapM_cons]
  rw [wholeChain?_badString]
  rfl

end ClassroomClient.Selector
