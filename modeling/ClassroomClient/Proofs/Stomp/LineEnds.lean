/-
# Line ends in the head of a message

A line may end in a line feed alone or in carriage returns and a line feed, and every line of a head
in another way. The reader drops the returns at the end of a line and passes over the line ends in
front of a message, so however these are written, the same is read: the same frame, the same
heart-beat or the same error. Behind the blank line the text is the body's, and stays as it is.
-/

import Mathlib.Data.List.TakeWhile
import ClassroomClient.Proofs.Stomp.Head
import ClassroomClient.Proofs.Stomp.RoundTrip

namespace ClassroomClient.Stomp

namespace Frame

/-! ## Returns in front of line feeds -/

/-- The text with carriage returns put in front of its line feeds: `counts 0` of them in front of
the first line feed, `counts 1` in front of the second, and so on. -/
def addReturns (counts : Nat → Nat) : List Char → List Char
  | [] => []
  | c :: rest =>
    if c = '\n' then
      List.replicate (counts 0) '\r' ++ c :: addReturns (fun feed => counts (feed + 1)) rest
    else
      c :: addReturns counts rest

/-- The message with carriage returns put in front of the line feeds of its head. -/
def withReturns (counts : Nat → Nat) (message : String) : String :=
  String.ofList (addReturns counts (headText message) ++ bodyText message)

/-- Two returns in front of the second line feed. The line feed of the body is none of the head. -/
example :
    withReturns (fun feed => if feed = 1 then 2 else 0) "\nERROR\nmessage:a\n\nx\n\x00" =
      "\nERROR\r\r\nmessage:a\n\nx\n\x00" := by
  decide

section AddReturns

variable {line rest text : List Char} {counts : Nat → Nat}

theorem addReturns_last (hline : '\n' ∉ line) (counts : Nat → Nat) :
    addReturns counts line = line := by
  induction line with
  | nil => rfl
  | cons c tail ih =>
      obtain ⟨hc, htail⟩ := by simpa only [List.mem_cons, not_or] using hline
      rw [addReturns, if_neg (Ne.symm hc), ih htail]

theorem addReturns_line (hline : '\n' ∉ line) (counts : Nat → Nat) (rest : List Char) :
    addReturns counts (line ++ '\n' :: rest) =
      (line ++ List.replicate (counts 0) '\r') ++
        '\n' :: addReturns (fun feed => counts (feed + 1)) rest := by
  induction line with
  | nil => rfl
  | cons c tail ih =>
      obtain ⟨hc, htail⟩ := by simpa only [List.mem_cons, not_or] using hline
      rw [List.cons_append, addReturns, if_neg (Ne.symm hc), ih htail]
      rfl

/-- The line feeds of a back part are counted on from those of the front. -/
theorem exists_addReturns_append (counts : Nat → Nat) (front back : List Char) :
    ∃ later, addReturns counts (front ++ back) =
      addReturns counts front ++ addReturns later back := by
  induction front generalizing counts with
  | nil => exact ⟨counts, rfl⟩
  | cons c rest ih =>
      rw [List.cons_append, addReturns, addReturns]
      split
      · obtain ⟨later, hlater⟩ := ih fun feed => counts (feed + 1)
        exact ⟨later, by rw [hlater, List.append_assoc, List.cons_append]⟩
      · obtain ⟨later, hlater⟩ := ih counts
        exact ⟨later, by rw [hlater, List.cons_append]⟩

theorem addReturns_eq_nil : addReturns counts text = [] ↔ text = [] := by
  cases text with
  | nil => simp [addReturns]
  | cons c rest =>
      rw [addReturns]
      split <;> simp

/-- All that is put into a text are carriage returns. -/
theorem eq_or_mem_of_mem_addReturns {c : Char} (hmem : c ∈ addReturns counts text) :
    c = '\r' ∨ c ∈ text := by
  fun_induction addReturns counts text with
  | case1 => cases hmem
  | case2 counts rest ih =>
      rcases List.mem_append.1 hmem with hmem | hmem
      · exact .inl (List.eq_of_mem_replicate hmem)
      · rcases List.mem_cons.1 hmem with rfl | hmem
        · exact .inr List.mem_cons_self
        · exact (ih hmem).imp_right (List.mem_cons_of_mem _)
  | case3 counts other rest _ ih =>
      rcases List.mem_cons.1 hmem with rfl | hmem
      · exact .inr List.mem_cons_self
      · exact (ih hmem).imp_right (List.mem_cons_of_mem _)

end AddReturns

/-! ## Reading with returns -/

section Respell

variable {escaped : Bool} {line : List Char}

/-- The text with carriage returns put in front of the line feeds up to its first blank line. -/
def respell (counts : Nat → Nat) (blank : Bool) (text : List Char) : List Char :=
  addReturns counts (splitBlank blank text).1 ++ (splitBlank blank text).2

theorem respell_last (hline : '\n' ∉ line) (counts : Nat → Nat) (blank : Bool) :
    respell counts blank line = line := by
  rw [respell, splitBlank_last hline, addReturns_last hline, List.append_nil]

theorem respell_cons {c : Char} (hc : c ≠ '\n') (counts : Nat → Nat) (blank : Bool)
    (rest : List Char) :
    respell counts blank (c :: rest) = c :: respell counts (blank && c == '\r') rest := by
  rw [respell, splitBlank, if_neg hc, Prod.map_fst, addReturns, if_neg hc]
  rfl

theorem respell_eq_nil {counts : Nat → Nat} {blank : Bool} {text : List Char} :
    respell counts blank text = [] ↔ text = [] := by
  rw [respell, List.append_eq_nil_iff, addReturns_eq_nil, ← List.append_eq_nil_iff,
    splitBlank_append]

/-- The first line is respelled, and the lines behind it if it is not the blank one. -/
theorem respell_line (hline : '\n' ∉ line) (counts : Nat → Nat) (blank : Bool)
    (rest : List Char) :
    respell counts blank (line ++ '\n' :: rest) =
      (line ++ List.replicate (counts 0) '\r') ++
        '\n' :: (if blank && line.all (· == '\r') then rest
          else respell (fun feed => counts (feed + 1)) true rest) := by
  rw [respell, splitBlank_line hline]
  split
  · rw [addReturns_line hline, List.append_assoc]
    rfl
  · rw [Prod.map_fst, addReturns_line hline, List.append_assoc]
    rfl

theorem lineFeed_not_mem_append_returns (hline : '\n' ∉ line) (count : Nat) :
    '\n' ∉ line ++ List.replicate count '\r' := by
  rw [List.mem_append]
  rintro (hmem | hmem)
  · exact hline hmem
  · exact absurd (List.eq_of_mem_replicate hmem) (by decide)

/-- More returns at the end of a line are dropped with the others. -/
theorem dropReturns_append_returns (line : List Char) (count : Nat) :
    dropReturns (line ++ List.replicate count '\r') = dropReturns line :=
  Text.dropTrailing_append (by simp) line

theorem readHeaders_respell (counts : Nat → Nat) (text : List Char) :
    readHeaders escaped (respell counts true text) = readHeaders escaped text := by
  induction text using line_induction generalizing counts with
  | hlast line hline => rw [respell_last hline]
  | hline line rest hline ih =>
      have hreturns := lineFeed_not_mem_append_returns hline (counts 0)
      rw [respell_line hline, readHeaders_line hreturns, readHeaders_line hline,
        dropReturns_append_returns, Bool.true_and]
      by_cases hblank : dropReturns line = []
      · rw [if_pos hblank, if_pos hblank, if_pos (dropReturns_eq_nil.1 hblank)]
      · have hshown : ¬ line.all (· == '\r') = true :=
          fun hall => hblank (dropReturns_eq_nil.2 hall)
        rw [if_neg hblank, if_neg hblank, if_neg hshown, ih]

theorem readHead_respell (counts : Nat → Nat) (text : List Char) :
    readHead (respell counts false text) = readHead text := by
  cases text using line_induction with
  | hlast line hline => rw [respell_last hline]
  | hline line rest hline _ =>
      have hreturns := lineFeed_not_mem_append_returns hline (counts 0)
      rw [respell_line hline, Bool.false_and, if_neg (by decide), readHead_line hreturns,
        readHead_line hline, dropReturns_append_returns]
      simp only [readHeaders_respell]

end Respell

/-! ## Messages with returns -/

/-- The first character behind the line ends in front is no line end. -/
theorem isLineEnd_eq_false_of_dropWhile {text tail : List Char} {c : Char}
    (htext : text.dropWhile isLineEnd = c :: tail) : isLineEnd c = false := by
  have hfirst := List.head?_dropWhile_not isLineEnd text
  simpa [htext] using hfirst

/-- Returns in front of a message make no difference behind its line ends. -/
theorem dropWhile_withReturns (counts : Nat → Nat) (message : String) :
    ∃ later, (withReturns counts message).toList.dropWhile isLineEnd =
      respell later false (message.toList.dropWhile isLineEnd) := by
  obtain ⟨later, hlater⟩ := exists_addReturns_append counts
    (message.toList.takeWhile isLineEnd) (splitBlank false (message.toList.dropWhile isLineEnd)).1
  refine ⟨later, ?_⟩
  have hlead : ∀ c ∈ addReturns counts (message.toList.takeWhile isLineEnd),
      c = '\r' ∨ c = '\n' := by
    intro c hmem
    rcases eq_or_mem_of_mem_addReturns hmem with hreturn | hmem
    · exact .inl hreturn
    · have hend := List.mem_takeWhile_imp hmem
      simpa [isLineEnd] using hend
  rw [withReturns, String.toList_ofList, headText, hlater, bodyText, List.append_assoc,
    dropWhile_isLineEnd_append hlead, ← respell]
  cases htext : message.toList.dropWhile isLineEnd with
  | nil => rfl
  | cons c tail =>
      have hfirst := isLineEnd_eq_false_of_dropWhile htext
      have hfeed : c ≠ '\n' := by
        rintro rfl
        cases hfirst
      rw [respell_cons hfeed, List.dropWhile_cons_of_neg (by simp [hfirst])]

/-- A NUL that is all of a text stays alone. -/
theorem isHeartBeat_respell {counts : Nat → Nat} {text : List Char}
    (hfirst : text.head? ≠ some '\n') :
    IsHeartBeat (respell counts false text) ↔ IsHeartBeat text := by
  cases text with
  | nil => exact Iff.rfl
  | cons c tail =>
      have hfeed : c ≠ '\n' := by simpa using hfirst
      rw [respell_cons hfeed, IsHeartBeat, IsHeartBeat]
      simp [respell_eq_nil]

/-- Whatever carriage returns are put in front of the line feeds in the head of a message, the same
is read from it: the same frame, the same heart-beat or the same error. -/
theorem parse_withReturns (message : String) (counts : Nat → Nat) :
    String.ofList (headText message ++ bodyText message) = message ∧
      parse (String.ofList (addReturns counts (headText message) ++ bodyText message)) =
        parse message := by
  refine ⟨by rw [headText_append_bodyText, String.ofList_toList], ?_⟩
  obtain ⟨later, hlater⟩ := dropWhile_withReturns counts message
  have hfirst : (message.toList.dropWhile isLineEnd).head? ≠ some '\n' := by
    intro hfeed
    obtain ⟨tail, htext⟩ := List.head?_eq_some_iff.1 hfeed
    cases isLineEnd_eq_false_of_dropWhile htext
  have hbeat : IsHeartBeat (respell later false (message.toList.dropWhile isLineEnd)) ↔
      IsHeartBeat (message.toList.dropWhile isLineEnd) := isHeartBeat_respell hfirst
  rw [← withReturns, parse_eq, parse_eq, hlater, parseFrame_eq, parseFrame_eq, readHead_respell]
  simp only [hbeat]

end Frame

end ClassroomClient.Stomp
