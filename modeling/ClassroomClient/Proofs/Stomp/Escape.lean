/-
# The escaped header texts

An escaped header text is a row of symbols: characters that stand for themselves, and the pairs of a
backslash with one of four letters. `Spells` says what such a row stands for, without any reader. A
text is read if it is such a row. Any other text begins with one, up to the first backslash that
begins no pair, and that is what the error names; where the pairs begin depends on all that stands
before them, since a run of backslashes is paired from its left end.
-/

import ClassroomClient.Proofs.Stomp.Header

namespace ClassroomClient.Stomp

/-! ## Symbols -/

/-- A symbol of an escaped text, with the character that it stands for. -/
inductive Symbol : List Char → Char → Prop
  | plain {c : Char} (hplain : c ≠ '\\') : Symbol [c] c
  | backslash : Symbol ['\\', '\\'] '\\'
  | lineFeed : Symbol ['\\', 'n'] '\n'
  | carriageReturn : Symbol ['\\', 'r'] '\r'
  | colon : Symbol ['\\', 'c'] ':'

/-- The text is a row of symbols for the characters. -/
def Spells (text chars : List Char) : Prop :=
  ∃ symbols, List.Forall₂ Symbol symbols chars ∧ text = symbols.flatten

/-- A backslash that begins no symbol, with the letter behind it if there is one, in front of the
rest of the text. -/
inductive Offends : List Char → List Char → Prop
  | letter {letter : Char} {rest : List Char} (hletter : letter ∉ ['\\', 'n', 'r', 'c']) :
      Offends ['\\', letter] rest
  | last : Offends ['\\'] []

/-- The first fault of a text that is read from left to right: everything before it is a row of
symbols. -/
def FirstOffends (text pair : List Char) : Prop :=
  ∃ front chars rest, Spells front chars ∧ Offends pair rest ∧ text = front ++ (pair ++ rest)

/-- No character of the text has a meaning on a header line. -/
def IsInert (text : List Char) : Prop := ∀ c ∈ text, c ≠ '\n' ∧ c ≠ '\r' ∧ c ≠ ':'

variable {text chars symbol pair front rest : List Char} {c : Char}

theorem spells_nil : Spells [] [] := ⟨[], .nil, rfl⟩

theorem Symbol.spells_append (hsymbol : Symbol symbol c) (hrest : Spells rest chars) :
    Spells (symbol ++ rest) (c :: chars) := by
  obtain ⟨symbols, hsymbols, rfl⟩ := hrest
  exact ⟨symbol :: symbols, .cons hsymbol hsymbols, rfl⟩

/-- Any text is a row of symbols, or there is a first fault in it. -/
theorem exists_spells_or_firstOffends (text : List Char) :
    (∃ chars, Spells text chars) ∨ ∃ pair, FirstOffends text pair := by
  have hbehind {symbol rest : List Char} {c : Char} (hsymbol : Symbol symbol c)
      (hrest : (∃ chars, Spells rest chars) ∨ ∃ pair, FirstOffends rest pair) :
      (∃ chars, Spells (symbol ++ rest) chars) ∨ ∃ pair, FirstOffends (symbol ++ rest) pair := by
    rcases hrest with ⟨chars, hspells⟩ | ⟨pair, front, chars, behind, hspells, hoffends, rfl⟩
    · exact .inl ⟨c :: chars, hsymbol.spells_append hspells⟩
    · refine .inr ⟨pair, symbol ++ front, c :: chars, behind, hsymbol.spells_append hspells,
        hoffends, ?_⟩
      rw [List.append_assoc]
  fun_induction unescape text with
  | case1 => exact .inl ⟨[], spells_nil⟩
  | case2 => exact .inr ⟨_, [], [], [], spells_nil, .last, rfl⟩
  | case3 letter rest c hletter ih =>
      unfold escapedChar? at hletter
      split at hletter
      · exact hbehind .backslash ih
      · exact hbehind .lineFeed ih
      · exact hbehind .carriageReturn ih
      · exact hbehind .colon ih
      · cases hletter
  | case4 letter rest hletter =>
      refine .inr ⟨_, [], [], rest, spells_nil, .letter ?_, rfl⟩
      intro hmem
      simp only [List.mem_cons, List.not_mem_nil, or_false] at hmem
      rcases hmem with rfl | rfl | rfl | rfl <;> cases hletter
  | case5 c rest hlast hpair ih =>
      have hplain : c ≠ '\\' := by
        rintro rfl
        cases rest with
        | nil => exact hlast rfl rfl
        | cons letter rest => exact hpair letter rest rfl rfl
      exact hbehind (.plain hplain) ih

/-! ## Reading -/

theorem Symbol.unescape_append (hsymbol : Symbol symbol c) (rest : List Char) :
    unescape (symbol ++ rest) = (unescape rest).map (c :: ·) := by
  cases hsymbol with
  | plain hplain => exact unescape_cons_of_ne hplain rest
  | _ => exact unescape_pair rfl rest

/-- A row of symbols is read from its front, whatever stands behind it. -/
theorem Spells.unescape_append (hspells : Spells front chars) (rest : List Char) :
    unescape (front ++ rest) = (unescape rest).map (chars ++ ·) := by
  obtain ⟨symbols, hsymbols, rfl⟩ := hspells
  induction hsymbols with
  | nil =>
      rw [List.flatten_nil, List.nil_append]
      cases unescape rest <;> rfl
  | cons hsymbol _ ih =>
      rw [List.flatten_cons, List.append_assoc, hsymbol.unescape_append, ih]
      cases unescape rest <;> rfl

theorem Spells.unescape_eq (hspells : Spells text chars) : unescape text = .ok chars := by
  have hread := hspells.unescape_append []
  rw [List.append_nil] at hread
  rw [hread]
  exact congrArg Except.ok (List.append_nil chars)

theorem Offends.unescape_append (hoffends : Offends pair rest) :
    unescape (pair ++ rest) = .error pair := by
  cases hoffends with
  | last => rfl
  | @letter letter rest hletter =>
      have hnone : escapedChar? letter = none := by
        unfold escapedChar?
        split
        case h_5 => rfl
        all_goals exact absurd (by decide) hletter
      rw [List.cons_append, List.cons_append, List.nil_append, unescape, hnone]

theorem FirstOffends.unescape_eq (hoffends : FirstOffends text pair) :
    unescape text = .error pair := by
  obtain ⟨front, chars, rest, hspells, hpair, rfl⟩ := hoffends
  rw [hspells.unescape_append, hpair.unescape_append]
  rfl

theorem unescape_eq_ok_iff : unescape text = .ok chars ↔ Spells text chars := by
  refine ⟨fun hread => ?_, Spells.unescape_eq⟩
  rcases exists_spells_or_firstOffends text with ⟨other, hspells⟩ | ⟨pair, hoffends⟩
  · rw [hspells.unescape_eq] at hread
    cases hread
    exact hspells
  · rw [hoffends.unescape_eq] at hread
    cases hread

theorem unescape_eq_error_iff : unescape text = .error pair ↔ FirstOffends text pair := by
  refine ⟨fun hread => ?_, FirstOffends.unescape_eq⟩
  rcases exists_spells_or_firstOffends text with ⟨chars, hspells⟩ | ⟨other, hoffends⟩
  · rw [hspells.unescape_eq] at hread
    cases hread
  · rw [hoffends.unescape_eq] at hread
    cases hread
    exact hoffends

/-! ## Escaping what was read -/

/-- An inert symbol is how its character is escaped. -/
theorem Symbol.escape_cons (hsymbol : Symbol symbol c) (hinert : IsInert symbol)
    (rest : List Char) : escape (c :: rest) = symbol ++ escape rest := by
  cases hsymbol with
  | plain hplain =>
      obtain ⟨hfeed, hreturn, hcolon⟩ := hinert c List.mem_cons_self
      have hsame : escape (c :: rest) = c :: escape rest := by
        rw [escape] <;> assumption
      exact hsame
  | _ => rfl

/-- A text that is read and holds no raw line end or colon is written back as it was. -/
theorem Spells.escape_eq (hspells : Spells text chars) (hinert : IsInert text) :
    escape chars = text := by
  obtain ⟨symbols, hsymbols, rfl⟩ := hspells
  induction hsymbols with
  | nil => rfl
  | cons hsymbol _ ih =>
      rw [List.flatten_cons] at hinert ⊢
      obtain ⟨hfirst, hrest⟩ := List.forall_mem_append.1 hinert
      rw [hsymbol.escape_cons hfirst, ih hrest]

theorem isInert_escape (text : List Char) : IsInert (escape text) :=
  fun _ hmem => ne_of_mem_escape hmem

/-! ## Header texts -/

namespace Frame

theorem readHeaderText_eq_ok_iff {value : String} :
    readHeaderText true text = .ok value ↔ Spells text value.toList := by
  rw [← unescape_eq_ok_iff, readHeaderText, if_pos rfl]
  cases unescape text with
  | error pair => simp
  | ok chars => simp [String.ext_iff]

theorem readHeaderText_eq_error_iff {fault : FrameError} :
    readHeaderText true text = .error fault ↔
      ∃ pair, FirstOffends text pair ∧ fault = .invalidEscape (String.ofList pair) := by
  simp only [← unescape_eq_error_iff]
  rw [readHeaderText, if_pos rfl]
  cases unescape text with
  | error pair => simp [eq_comm]
  | ok chars => simp

/-- What the language of escaped header texts is, and how it is read and written. -/
structure ReadsEscapes (text : List Char) : Prop where
  /-- The rows of symbols are read, as what they stand for. -/
  accepted : ∀ value, readHeaderText true text = .ok value ↔ Spells text value.toList
  /-- Any other text is refused for its first fault. -/
  refused : ∀ fault, readHeaderText true text = .error fault ↔
    ∃ pair, FirstOffends text pair ∧ fault = .invalidEscape (String.ofList pair)
  /-- What is written is inert and is read back. -/
  written : IsInert (escape text) ∧
    readHeaderText true (escape text) = .ok (String.ofList text)
  /-- An inert text that is read is how its value is written. -/
  canonical : ∀ value, readHeaderText true text = .ok value → IsInert text →
    escape value.toList = text

/-- Every text is read and written as the language of escapes says. -/
theorem readsEscapes (text : List Char) : ReadsEscapes text where
  accepted _ := readHeaderText_eq_ok_iff
  refused _ := readHeaderText_eq_error_iff
  written := by
    refine ⟨isInert_escape text, ?_⟩
    rw [readHeaderText, if_pos rfl, unescape_escape]
  canonical value hread hinert := (readHeaderText_eq_ok_iff.1 hread).escape_eq hinert

/-- Four backslashes are two pairs, so that the fifth one is paired with the letter behind it. -/
example : readHeaderText true "a:\\\\\\\\\\tb".toList = .error (.invalidEscape "\\t") := by decide

end Frame

end ClassroomClient.Stomp
