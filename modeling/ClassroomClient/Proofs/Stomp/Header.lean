/-
# Header lines read back

Escaping and its inverse, and what a header line keeps of its header. An escaped text holds no
line end and no colon, so every header survives on an escaped line. A line that is not escaped
keeps only plain headers: their names hold no colon, and neither part holds what would be taken
for the end of the line.
-/

import ClassroomClient.Stomp.Frame
import ClassroomClient.Proofs.Text

namespace ClassroomClient.Stomp

open ClassroomClient.Stomp.Frame

/-! ## Escapes -/

theorem unescape_cons_of_ne {c : Char} (hc : c ≠ '\\') (rest : List Char) :
    unescape (c :: rest) = (unescape rest).map (c :: ·) := by
  rw [unescape] <;> simp [hc]

theorem unescape_pair {letter c : Char} (hletter : escapedChar? letter = some c)
    (rest : List Char) :
    unescape ('\\' :: letter :: rest) = (unescape rest).map (c :: ·) := by
  rw [unescape, hletter]

/-- Reading undoes escaping, whatever the text holds. -/
theorem unescape_escape (text : List Char) : unescape (escape text) = .ok text := by
  fun_induction escape text with
  | case1 => rfl
  | case2 rest ih | case3 rest ih | case4 rest ih | case5 rest ih =>
      rw [unescape_pair rfl, ih]
      rfl
  | case6 rest c hbackslash _ _ _ ih =>
      rw [unescape_cons_of_ne hbackslash, ih]
      rfl

/-- The escaped form of a text holds nothing that has a meaning on a header line. -/
theorem ne_of_mem_escape {text : List Char} {c : Char} (hmem : c ∈ escape text) :
    c ≠ '\n' ∧ c ≠ '\r' ∧ c ≠ ':' := by
  fun_induction escape text with
  | case1 => simp at hmem
  | case2 rest ih | case3 rest ih | case4 rest ih | case5 rest ih =>
      simp only [List.mem_cons] at hmem
      rcases hmem with rfl | rfl | hmem
      · decide
      · decide
      · exact ih hmem
  | case6 rest other _ hfeed hreturn hcolon ih =>
      rcases List.mem_cons.1 hmem with rfl | hmem
      · exact ⟨hfeed, hreturn, hcolon⟩
      · exact ih hmem

/-! ## Cutting at line ends and colons -/

theorem splitLine?_append {line : List Char} (hline : '\n' ∉ line) (rest : List Char) :
    splitLine? (line ++ '\n' :: rest) = some (line, rest) := by
  induction line with
  | nil => rfl
  | cons c tail ih =>
      obtain ⟨hc, htail⟩ := by simpa only [List.mem_cons, not_or] using hline
      rw [List.cons_append, splitLine?, ih htail]
      · rfl
      · exact Ne.symm hc

theorem splitColon?_append {name : List Char} (hname : ':' ∉ name) (value : List Char) :
    splitColon? (name ++ ':' :: value) = some (name, value) := by
  induction name with
  | nil => rfl
  | cons c tail ih =>
      obtain ⟨hc, htail⟩ := by simpa only [List.mem_cons, not_or] using hname
      rw [List.cons_append, splitColon?, ih htail]
      · rfl
      · exact Ne.symm hc

/-- A line is all that stands before the first line feed. -/
theorem splitLine?_eq_some {text line rest : List Char}
    (hsplit : splitLine? text = some (line, rest)) :
    text = line ++ '\n' :: rest ∧ '\n' ∉ line := by
  fun_induction splitLine? text generalizing line with
  | case1 => cases hsplit
  | case2 => cases hsplit; simp
  | case3 c tail hfeed ih =>
      obtain ⟨⟨front, after⟩, hfront, hpair⟩ := Option.map_eq_some_iff.1 hsplit
      cases hpair
      obtain ⟨rfl, hnone⟩ := ih hfront
      exact ⟨rfl, by simpa [Ne.symm hfeed] using hnone⟩

/-- A name is all that stands before the first colon. -/
theorem splitColon?_eq_some {line name value : List Char}
    (hsplit : splitColon? line = some (name, value)) :
    line = name ++ ':' :: value ∧ ':' ∉ name := by
  fun_induction splitColon? line generalizing name with
  | case1 => cases hsplit
  | case2 => cases hsplit; simp
  | case3 c tail hcolon ih =>
      obtain ⟨⟨front, after⟩, hfront, hpair⟩ := Option.map_eq_some_iff.1 hsplit
      cases hpair
      obtain ⟨rfl, hnone⟩ := ih hfront
      exact ⟨rfl, by simpa [Ne.symm hcolon] using hnone⟩

/-! ## Header lines -/

/-- What a header must be like for an unescaped line to keep it. -/
structure Header.IsPlain (header : Header) : Prop where
  name_no_colon : ':' ∉ header.name.toList
  name_no_lineFeed : '\n' ∉ header.name.toList
  value_no_lineFeed : '\n' ∉ header.value.toList
  value_no_last_return : header.value.toList.getLast? ≠ some '\r'

/-- Escaped lines keep every header, the others only plain ones. -/
def Header.Fits (escaped : Bool) (header : Header) : Prop :=
  escaped = false → header.IsPlain

variable {escaped : Bool} {header : Header}

/-- A name as it stands on a header line. -/
def headerText (escaped : Bool) (text : String) : List Char :=
  if escaped then escape text.toList else text.toList

theorem headerLine_eq (escaped : Bool) (header : Header) :
    headerLine escaped header =
      headerText escaped header.name ++ ':' :: headerText escaped header.value := by
  cases escaped <;> rfl

@[simp] theorem readHeaderText_headerText (escaped : Bool) (text : String) :
    readHeaderText escaped (headerText escaped text) = .ok text := by
  cases escaped with
  | false => simp [readHeaderText, headerText]
  | true => simp [readHeaderText, headerText, unescape_escape]

theorem colon_not_mem_headerText_name (hfits : header.Fits escaped) :
    ':' ∉ headerText escaped header.name := by
  cases escaped with
  | false => exact (hfits rfl).name_no_colon
  | true => exact fun hmem => (ne_of_mem_escape hmem).2.2 rfl

theorem lineFeed_not_mem_headerLine (hfits : header.Fits escaped) :
    '\n' ∉ headerLine escaped header := by
  rw [headerLine_eq, List.mem_append, List.mem_cons]
  cases escaped with
  | false =>
      have hplain := hfits rfl
      rintro (hname | hcolon | hvalue)
      · exact hplain.name_no_lineFeed hname
      · exact absurd hcolon (by decide)
      · exact hplain.value_no_lineFeed hvalue
  | true =>
      rintro (hname | hcolon | hvalue)
      · exact (ne_of_mem_escape hname).1 rfl
      · exact absurd hcolon (by decide)
      · exact (ne_of_mem_escape hvalue).1 rfl

/-- A header line does not end in a carriage return, so nothing is cut off from it. -/
theorem dropReturns_headerLine (hfits : header.Fits escaped) :
    dropReturns (headerLine escaped header) = headerLine escaped header := by
  apply Text.dropTrailing_eq_self
  intro last hlast
  rw [headerLine_eq] at hlast
  have hvalue : (headerText escaped header.value).getLast? ≠ some '\r' := by
    cases escaped with
    | false => exact (hfits rfl).value_no_last_return
    | true => exact fun heq => (ne_of_mem_escape (List.mem_of_getLast? heq)).2.1 rfl
  have hne : last ≠ '\r' := by
    rintro rfl
    rw [List.getLast?_append, List.getLast?_cons] at hlast
    cases hlast' : (headerText escaped header.value).getLast? with
    | none => simp [hlast'] at hlast
    | some c =>
        obtain rfl : c = '\r' := by simpa [hlast'] using hlast
        exact hvalue hlast'
  simpa using hne

theorem headerLine_ne_nil (escaped : Bool) (header : Header) :
    headerLine escaped header ≠ [] := by
  simp [headerLine_eq]

/-- A header that fits is read back from its line. -/
theorem readHeader_headerLine (hfits : header.Fits escaped) :
    readHeader escaped (headerLine escaped header) = .ok header := by
  have hsplit := splitColon?_append (colon_not_mem_headerText_name hfits)
    (headerText escaped header.value)
  rw [readHeader, headerLine_eq, hsplit]
  simp only [readHeaderText_headerText]
  rfl

end ClassroomClient.Stomp
