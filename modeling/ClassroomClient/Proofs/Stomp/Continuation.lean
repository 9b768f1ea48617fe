/-
# Messages that go on

The reader decides from left to right. More text behind a message does not change what was already
decided: an error in a line stays the same error, and a command with its headers stays. Only what
looks for the end of the text can change: a head that was cut off may be completed, a body that was
too short may become long enough, and a body that nothing ended may grow.
-/

import Mathlib.Data.List.TakeWhile
import ClassroomClient.Proofs.Stomp.Head

namespace ClassroomClient.Stomp

/-- The errors that no text behind a message can mend: those of a command or a header line. -/
inductive FrameError.IsFinal : FrameError → Prop
  | unknownCommand (name : String) : IsFinal (.unknownCommand name)
  | malformedHeader (line : String) : IsFinal (.malformedHeader line)
  | invalidEscape (pair : String) : IsFinal (.invalidEscape pair)

/-- Every other error is about where the text ends. -/
theorem FrameError.isFinal_or (fault : FrameError) :
    fault.IsFinal ∨ fault = .truncated ∨ ∃ value, fault = .invalidContentLength value := by
  cases fault with
  | truncated => exact .inr (.inl rfl)
  | unknownCommand name => exact .inl (.unknownCommand name)
  | malformedHeader line => exact .inl (.malformedHeader line)
  | invalidEscape pair => exact .inl (.invalidEscape pair)
  | invalidContentLength value => exact .inr (.inr ⟨value, rfl⟩)

namespace Frame

variable {escaped : Bool} {text behind : List Char} {headers : List Header}

/-! ## The head -/

/-- Header lines that were not cut off are read in the same way in front of more text. -/
theorem readHeaders_append (text more : List Char) :
    readHeaders escaped text = .error .truncated ∨
      readHeaders escaped (text ++ more) =
        (readHeaders escaped text).map fun (headers, behind) => (headers, behind ++ more) := by
  induction text using line_induction with
  | hlast line hline => exact .inl (readHeaders_last hline)
  | hline line rest hline ih =>
      rw [List.append_assoc, List.cons_append, readHeaders_line hline, readHeaders_line hline]
      by_cases hblank : dropReturns line = []
      · rw [if_pos hblank, if_pos hblank]
        exact .inr rfl
      · rw [if_neg hblank, if_neg hblank]
        cases readHeader escaped (dropReturns line) with
        | error fault => exact .inr rfl
        | ok header =>
            rcases ih with hcut | hsame
            · rw [hcut]
              exact .inl rfl
            · rw [hsame]
              right
              cases readHeaders escaped rest <;> rfl

/-- A head that was not cut off is read in the same way in front of more text. -/
theorem readHead_append (text more : List Char) :
    readHead text = .error .truncated ∨
      readHead (text ++ more) =
        (readHead text).map fun (command, headers, behind) =>
          (command, headers, behind ++ more) := by
  cases text using line_induction with
  | hlast line hline => exact .inl (readHead_last hline)
  | hline line rest hline _ =>
      rw [List.append_assoc, List.cons_append, readHead_line hline, readHead_line hline]
      cases Command.ofWireName? (String.ofList (dropReturns line)) with
      | none => exact .inr rfl
      | some command =>
          dsimp only
          rcases readHeaders_append rest more with hcut | hsame
          · rw [hcut]
            exact .inl rfl
          · rw [hsame]
            right
            cases readHeaders command.escapesHeaders rest <;> rfl

/-! ## The body -/

theorem takeUtf8?_append {size : Nat} {chars front : List Char}
    (hcut : Text.takeUtf8? size chars = some front) (more : List Char) :
    Text.takeUtf8? size (chars ++ more) = some front := by
  obtain ⟨⟨back, rfl⟩, rfl⟩ := Text.takeUtf8?_eq_some hcut
  rw [List.append_assoc, Text.takeUtf8?_utf8Length_append]

theorem takeWhile_append_of_nul (hnul : '\x00' ∈ behind) (more : List Char) :
    (behind ++ more).takeWhile (· != '\x00') = behind.takeWhile (· != '\x00') := by
  rw [List.takeWhile_append, if_neg]
  intro hlength
  have hall := (List.takeWhile_prefix (· != '\x00')).eq_of_length hlength
  have hother := List.takeWhile_eq_self_iff.1 hall _ hnul
  simp at hother

/-- Only a length can be wrong with a body. -/
theorem exists_of_readBody_error {fault : FrameError}
    (hread : readBody headers behind = .error fault) :
    ∃ value, fault = .invalidContentLength value := by
  obtain ⟨length, -, ⟨-, rfl⟩ | ⟨size, -, -, rfl⟩⟩ := readBody_eq_error.1 hread
  · exact ⟨length, rfl⟩
  · exact ⟨_, rfl⟩

/-- A body that was read can be read in front of more text, and is the same if its length is given
or if it was ended by a NUL. -/
theorem readBody_append {body : String} (hread : readBody headers behind = .ok body)
    (more : List Char) :
    ∃ again, readBody headers (behind ++ more) = .ok again ∧
      ((lookup? headers contentLength).isSome ∨ '\x00' ∈ behind → again = body) := by
  cases hlength : lookup? headers contentLength with
  | none =>
      simp only [readBody, hlength] at hread ⊢
      cases hread
      refine ⟨_, rfl, ?_⟩
      rintro (hgiven | hnul)
      · cases hgiven
      · rw [takeWhile_append_of_nul hnul]
  | some length =>
      obtain ⟨size, hsize, htake⟩ := (readBody_eq_ok hlength).1 hread
      exact ⟨body, (readBody_eq_ok hlength).2 ⟨size, hsize, takeUtf8?_append htake more⟩,
        fun _ => rfl⟩

/-! ## Frames -/

/-- An error in the head stays in front of more text. -/
theorem parseFrame_append_of_error {fault : FrameError} (hread : parseFrame text = .error fault)
    (hfinal : fault.IsFinal) (more : List Char) : parseFrame (text ++ more) = .error fault := by
  rcases parseFrame_eq_error.1 hread with hhead | ⟨_, _, _, _, hbody⟩
  · rcases readHead_append text more with hcut | hsame
    · cases hhead.symm.trans hcut
      cases hfinal
    · rw [hhead] at hsame
      exact parseFrame_eq_error.2 (.inl hsame)
  · obtain ⟨value, rfl⟩ := exists_of_readBody_error hbody
    cases hfinal

/-- A frame keeps its head in front of more text, and its body if that has an end of its own. -/
theorem parseFrame_append_of_ok {frame : Frame} (hread : parseFrame text = .ok frame)
    (more : List Char) :
    ∃ again, parseFrame (text ++ more) = .ok again ∧
      again.command = frame.command ∧ again.headers = frame.headers ∧
      ((frame.header? contentLength).isSome ∨ '\x00' ∈ (splitBlank false text).2 →
        again.body = frame.body) := by
  obtain ⟨behind, hhead, hbody⟩ := parseFrame_eq_ok.1 hread
  obtain ⟨body, hagain, hsame⟩ := readBody_append hbody more
  rcases readHead_append text more with hcut | hmore
  · cases hhead.symm.trans hcut
  · rw [hhead] at hmore
    refine ⟨{ frame with body }, parseFrame_eq_ok.2 ⟨_, hmore, hagain⟩, rfl, rfl, ?_⟩
    rw [behind_of_readHead hhead]
    exact hsame

/-! ## Messages -/

/-- A message that is no heart-beat goes on behind its line ends. -/
theorem dropWhile_append {message : String}
    (hbeat : ¬ IsHeartBeat (message.toList.dropWhile isLineEnd)) (more : String) :
    (message ++ more).toList.dropWhile isLineEnd =
      message.toList.dropWhile isLineEnd ++ more.toList := by
  rw [String.toList_append, List.dropWhile_append, if_neg]
  rw [List.isEmpty_iff]
  exact fun hempty => hbeat (.inl hempty)

/-- A message that is no heart-beat does not become one. -/
theorem not_isHeartBeat_append {text : List Char} (hbeat : ¬ IsHeartBeat text) (more : List Char) :
    ¬ IsHeartBeat (text ++ more) := by
  rintro (hempty | hnul)
  · exact hbeat (.inl (List.append_eq_nil_iff.1 hempty).1)
  · rcases List.append_eq_singleton_iff.1 hnul with ⟨hempty, _⟩ | ⟨hnul, _⟩
    · exact hbeat (.inl hempty)
    · exact hbeat (.inr hnul)

theorem parse_of_not_isHeartBeat {message : String}
    (hbeat : ¬ IsHeartBeat (message.toList.dropWhile isLineEnd)) (more : String) :
    parse (message ++ more) =
      (parseFrame (message.toList.dropWhile isLineEnd ++ more.toList)).map some := by
  rw [parse_eq, dropWhile_append hbeat, if_neg (not_isHeartBeat_append hbeat _)]

/-- What is decided by a message stays when it goes on. An unknown command, a malformed header and
an invalid escape are the same errors. A frame stays a frame with the same command and headers, and
has the same body if a header gives its length or if a NUL stands behind the blank line. Conversely,
a message that can go on to be a frame is a heart-beat, cut off in its head, shorter than a header
says, or a frame with that command and these headers. -/
theorem parse_append (message more : String) :
    (∀ fault : FrameError, fault.IsFinal → parse message = .error fault →
      parse (message ++ more) = .error fault) ∧
    (∀ frame, parse message = .ok (some frame) →
      ∃ again, parse (message ++ more) = .ok (some again) ∧
        again.command = frame.command ∧ again.headers = frame.headers ∧
        ((frame.header? "content-length").isSome ∨ '\x00' ∈ bodyText message →
          again.body = frame.body)) ∧
    (∀ again, parse (message ++ more) = .ok (some again) →
      parse message = .ok none ∨ parse message = .error .truncated ∨
        (∃ value, parse message = .error (.invalidContentLength value)) ∨
        ∃ frame, parse message = .ok (some frame) ∧
          frame.command = again.command ∧ frame.headers = again.headers) := by
  by_cases hbeat : IsHeartBeat (message.toList.dropWhile isLineEnd)
  · have hnone : parse message = .ok none := by rw [parse_eq, if_pos hbeat]
    rw [hnone]
    exact ⟨nofun, nofun, fun _ _ => .inl rfl⟩
  · have hread : parse message =
        (parseFrame (message.toList.dropWhile isLineEnd)).map some := by
      rw [parse_eq, if_neg hbeat]
    rw [hread, parse_of_not_isHeartBeat hbeat]
    cases hframe : parseFrame (message.toList.dropWhile isLineEnd) with
    | error fault =>
        refine ⟨?_, nofun, ?_⟩
        · rintro other hfinal hsame
          cases hsame
          rw [parseFrame_append_of_error hframe hfinal]
          rfl
        · intro again hagain
          rcases fault.isFinal_or with hfinal | rfl | ⟨value, rfl⟩
          · rw [parseFrame_append_of_error hframe hfinal] at hagain
            cases hagain
          · exact .inr (.inl rfl)
          · exact .inr (.inr (.inl ⟨value, rfl⟩))
    | ok frame =>
        obtain ⟨again, hagain, hcommand, hheaders, hbody⟩ :=
          parseFrame_append_of_ok hframe more.toList
        rw [hagain]
        refine ⟨nofun, ?_, ?_⟩
        · rintro other ⟨⟩
          exact ⟨again, rfl, hcommand, hheaders, hbody⟩
        · rintro other ⟨⟩
          exact .inr (.inr (.inr ⟨frame, rfl, hcommand.symm, hheaders.symm⟩))

/-- A malformed line is not mended, a body behind which a NUL stands does not grow, and one that is
shorter than its length may become complete. -/
theorem parse_append_of_cut_texts :
    (parse "MESSAGE\nfoo\n" = .error (.malformedHeader "foo") ∧
      parse ("MESSAGE\nfoo\n" ++ "a:b\n\n\x00") = .error (.malformedHeader "foo")) ∧
    (∃ again, parse ("SEND\r\na:b\r\n\r\nx\x00" ++ "y\x00") = .ok (some again) ∧
      again.headers = [⟨"a", "b"⟩] ∧ again.body = "x") ∧
    (parse ("SEND\ncontent-length:3\n\né" ++ "x\x00") =
        .ok (some { command := .send, headers := [⟨"content-length", "3"⟩], body := "éx" }) ∧
      ∃ value, parse "SEND\ncontent-length:3\n\né" = .error (.invalidContentLength value)) := by
  have hlonger : parse ("SEND\ncontent-length:3\n\né" ++ "x\x00") =
      .ok (some { command := .send, headers := [⟨"content-length", "3"⟩], body := "éx" }) := by
    decide +kernel
  refine ⟨⟨by decide +kernel, ?_⟩, ?_, hlonger, ?_⟩
  · obtain ⟨hfinal, _, _⟩ := parse_append "MESSAGE\nfoo\n" "a:b\n\n\x00"
    exact hfinal _ (.malformedHeader "foo") (by decide +kernel)
  · obtain ⟨_, hframe, _⟩ := parse_append "SEND\r\na:b\r\n\r\nx\x00" "y\x00"
    obtain ⟨again, hagain, _, hheaders, hbody⟩ :=
      hframe { command := .send, headers := [⟨"a", "b"⟩], body := "x" } (by decide +kernel)
    exact ⟨again, hagain, hheaders, hbody (.inr (by decide +kernel))⟩
  · obtain ⟨_, _, hback⟩ := parse_append "SEND\ncontent-length:3\n\né" "x\x00"
    rcases hback _ hlonger with hbeat | hcut | hlength | ⟨frame, hframe, _⟩
    · exact absurd hbeat (by decide +kernel)
    · exact absurd hcut (by decide +kernel)
    · exact hlength
    · have hshort : parse "SEND\ncontent-length:3\n\né" = .error (.invalidContentLength "3") := by
        decide +kernel
      cases hshort.symm.trans hframe

end Frame

end ClassroomClient.Stomp
