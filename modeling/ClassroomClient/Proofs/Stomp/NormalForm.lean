/-
# The normal form of accepted texts

A text that is read as a frame may be written in many ways: with other line ends, with a length in
another spelling, with text behind the body. Writing the frame again forgets all of that. The frames
that can be read are all of those that can be written, so the written text is read back, and reading
it and writing it once more changes nothing.

What makes a frame writable is read off from the reader: a header line that is not escaped was cut
at its first colon and at its line end, and a body that has a length was cut at that length.
-/

import ClassroomClient.Proofs.Stomp.RoundTrip

namespace ClassroomClient.Stomp

namespace Frame

/-! ## What the reader accepts -/

section Reader

variable {escaped : Bool} {line text behind : List Char} {header : Header} {headers : List Header}

/-- A line without the returns at its end does not end in one. -/
theorem getLast?_dropReturns_ne (line : List Char) : (dropReturns line).getLast? ≠ some '\r' := by
  intro hlast
  have hkept := Text.eq_false_of_getLast?_dropTrailing hlast
  simp at hkept

/-- A header fits on the line that it was read from. -/
theorem fits_of_readHeader (hline : '\n' ∉ line)
    (hread : readHeader escaped (dropReturns line) = .ok header) : header.Fits escaped := by
  rintro rfl
  unfold readHeader at hread
  split at hread
  · cases hread
  · next name value hsplit =>
    obtain ⟨hshown, hcolon⟩ := splitColon?_eq_some hsplit
    obtain rfl : ⟨String.ofList name, String.ofList value⟩ = header := Except.ok.inj hread
    have hfeed : '\n' ∉ name ++ ':' :: value := by
      rw [← hshown]
      exact fun hmem => hline ((Text.dropTrailing_front _ line).subset hmem)
    have hlast := getLast?_dropReturns_ne line
    rw [hshown] at hlast
    constructor
    · simpa using hcolon
    · intro hmem
      exact hfeed (List.mem_append_left _ (by simpa using hmem))
    · intro hmem
      exact hfeed (List.mem_append_right _ (List.mem_cons_of_mem _ (by simpa using hmem)))
    · intro hvalue
      rw [String.toList_ofList] at hvalue
      apply hlast
      rw [List.getLast?_append, List.getLast?_cons, hvalue]
      rfl

/-- Headers that were read fit on their lines, and what is behind them is the end of the text. -/
theorem fits_of_readHeaders (hread : readHeaders escaped text = .ok (headers, behind)) :
    (∀ header ∈ headers, header.Fits escaped) ∧ behind <:+ text := by
  fun_induction readHeaders escaped text generalizing headers behind with
  | case1 => cases hread
  | case2 text line rest hsplit hblank =>
      cases hread
      obtain ⟨rfl, _⟩ := splitLine?_eq_some hsplit
      refine ⟨by simp, ?_⟩
      exact (List.suffix_cons '\n' rest).trans (List.suffix_append line _)
  | case3 => cases hread
  | case4 => cases hread
  | case5 text line rest hsplit header more after hmore hshown hheader ih =>
      cases hread
      obtain ⟨rfl, hfeed⟩ := splitLine?_eq_some hsplit
      obtain ⟨hfits, hsuffix⟩ := ih hmore
      refine ⟨?_, ?_⟩
      · intro other hmem
        rcases List.mem_cons.1 hmem with rfl | hmem
        · exact fits_of_readHeader hfeed hheader
        · exact hfits other hmem
      · exact hsuffix.trans ((List.suffix_cons '\n' rest).trans (List.suffix_append line _))

/-- A body that was read is the front of the text behind the headers, and takes the bytes that they
give. -/
theorem front_of_readBody {body : String} (hread : readBody headers behind = .ok body) :
    body.toList <+: behind ∧ ∀ value, lookup? headers contentLength = some value →
      Text.readSize? (Text.trim value.toList) = some body.utf8ByteSize := by
  cases hgiven : lookup? headers contentLength with
  | none =>
      simp only [readBody, hgiven] at hread
      cases hread
      rw [String.toList_ofList]
      exact ⟨List.takeWhile_prefix _, fun _ hsome => by cases hsome⟩
  | some length =>
      obtain ⟨size, hsize, htake⟩ := (readBody_eq_ok hgiven).1 hread
      obtain ⟨hfront, hbytes⟩ := Text.takeUtf8?_eq_some htake
      refine ⟨hfront, ?_⟩
      rintro value ⟨⟩
      rw [hsize, ← hbytes, Text.utf8Length_toList]

end Reader

/-- A frame that was read can be written, and its body is no longer than the text. -/
theorem isWritable_of_parseFrame {text : List Char} {frame : Frame}
    (hread : parseFrame text = .ok frame) :
    frame.IsWritable ∧ frame.body.utf8ByteSize ≤ Text.utf8Length text := by
  obtain ⟨behind, hhead, hbody⟩ := parseFrame_eq_ok.1 hread
  obtain ⟨line, rest, rfl, _, _, hheaders⟩ := exists_line_of_readHead hhead
  obtain ⟨hfits, hsuffix⟩ := fits_of_readHeaders hheaders
  obtain ⟨hfront, hlength⟩ := front_of_readBody hbody
  refine ⟨⟨hlength, ?_⟩, ?_⟩
  · intro hcommand header hmem
    apply hfits header hmem
    rcases hcommand with hcase | hcase
    all_goals
      rw [hcase]
      rfl
  · rw [← Text.utf8Length_toList]
    calc Text.utf8Length frame.body.toList ≤ Text.utf8Length behind :=
          Text.utf8Length_le_of_front hfront
      _ ≤ Text.utf8Length rest := Text.utf8Length_le_of_suffix hsuffix
      _ ≤ Text.utf8Length (line ++ '\n' :: rest) :=
          Text.utf8Length_le_of_suffix
            ((List.suffix_cons '\n' rest).trans (List.suffix_append line _))

/-- A message that holds a frame holds it behind its leading line ends. -/
theorem parse_eq_some {message : String} {frame : Frame}
    (hparse : parse message = .ok (some frame)) :
    parseFrame (message.toList.dropWhile isLineEnd) = .ok frame := by
  rw [parse_eq] at hparse
  split at hparse
  · cases hparse
  · obtain ⟨read, hframe, hsame⟩ := exists_of_map_eq_ok hparse
    cases hsame
    exact hframe

/-- Every frame that is read from a text can be written. -/
theorem isWritable_of_parse {message : String} {frame : Frame}
    (hparse : parse message = .ok (some frame)) :
    frame.IsWritable ∧ frame.body.utf8ByteSize ≤ message.utf8ByteSize := by
  obtain ⟨hwritable, hbody⟩ := isWritable_of_parseFrame (parse_eq_some hparse)
  refine ⟨hwritable, Nat.le_trans hbody ?_⟩
  rw [← Text.utf8Length_toList]
  exact Text.utf8Length_le_of_suffix (List.dropWhile_suffix _)

/-! ## The normal form -/

/-- Whatever else is read from the text of a frame, it is a frame of the same command. -/
theorem command_of_parse_encode {frame again : Frame}
    (hparse : parse frame.encode = .ok (some again)) : again.command = frame.command := by
  have hframe := parse_eq_some hparse
  obtain ⟨first, name, hname, hfirst, _⟩ := Command.wireName_eq_cons frame.command
  have htext := frame.toList_encode_append []
  rw [List.append_nil] at htext
  rw [htext, hname, List.cons_append, List.dropWhile_cons_of_neg (by simp [hfirst]),
    ← List.cons_append, ← hname] at hframe
  obtain ⟨behind, hhead, _⟩ := parseFrame_eq_ok.1 hframe
  rw [readHead_line (Command.lineFeed_not_mem_wireName frame.command), dropReturns_wireName,
    String.ofList_toList, Command.ofWireName?_wireName] at hhead
  obtain ⟨_, _, htriple⟩ := exists_of_map_eq_ok hhead
  exact (congrArg (·.1) htriple).symm

/-- A frame with its length among its headers has the same text as the frame without. -/
theorem encode_sized (frame : Frame) : frame.sized.encode = frame.encode := by
  have hheaders : frame.sized.wireHeaders = frame.wireHeaders := by
    rw [wireHeaders_eq, wireHeaders_eq]
    by_cases hkept : frame.body = "" ∨ (frame.header? contentLength).isSome
    · have hsame : frame.sized = frame := by rw [sized, if_pos hkept]
      rw [hsame, hsame]
    · obtain ⟨_, hgiven⟩ := not_or.1 hkept
      have hnone : lookup? frame.headers contentLength = none :=
        Option.not_isSome_iff_eq_none.1 hgiven
      have hsome : (frame.sized.header? contentLength).isSome := by
        rw [sized, if_neg hkept, header?, lookup?_append_of_none hnone]
        rfl
      rw [sized, if_pos (.inr hsome)]
  rw [encode, encode, hheaders, sized_eq]

/-- What is read from a text is written as a text from which the same is read again: the same
command, the same body, and the same headers, behind which the length of the body is added exactly
when there is a body and no header gave its length. That frame has the same text, so writing and
reading once more changes nothing. No text is longer than the sizes that a machine can name. -/
theorem parse_encode_of_parse {message : String} {frame : Frame}
    (hsize : message.utf8ByteSize ≤ Text.maxSize)
    (hparse : parse message = .ok (some frame)) :
    ∃ again : Frame, parse frame.encode = .ok (some again) ∧
      again.command = frame.command ∧ again.body = frame.body ∧
      again.headers =
        (if frame.body ≠ "" ∧ frame.header? "content-length" = none then
          frame.headers ++
            [{ name := "content-length", value := toString frame.body.utf8ByteSize }]
        else frame.headers) ∧
      again.encode = frame.encode := by
  obtain ⟨hwritable, hbody⟩ := isWritable_of_parse hparse
  refine ⟨frame.sized, hwritable.parse_encode (Nat.le_trans hbody hsize), ?_, ?_, ?_,
    frame.encode_sized⟩
  · rw [sized_eq]
  · rw [sized_eq]
  · by_cases hadded : frame.body ≠ "" ∧ frame.header? "content-length" = none
    · have hkept : ¬ (frame.body = "" ∨ (frame.header? contentLength).isSome) := by
        rintro (hempty | hgiven)
        · exact hadded.1 hempty
        · rw [contentLength, hadded.2] at hgiven
          cases hgiven
      rw [if_pos hadded, sized, if_neg hkept]
      rfl
    · have hkept : frame.body = "" ∨ (frame.header? contentLength).isSome := by
        by_contra hnot
        obtain ⟨hbody, hnone⟩ := not_or.1 hnot
        exact hadded ⟨hbody, by simpa [contentLength] using hnone⟩
      rw [if_neg hadded, sized, if_pos hkept]

/-- A text with other line ends, a length with a sign and blanks, a NUL in the body and more text
behind it. -/
theorem parse_encode_of_parse_spelled :
    let headers := "content-length: +4\t\r\na\\cb:\\\\\ncontent-length:9\n\r\n"
    let message := "\r\n\nMESSAGE\r\n" ++ headers ++ "é\x00x\x00\n"
    let frame : Frame :=
      { command := .message
        headers := [⟨"content-length", " +4\t"⟩, ⟨"a:b", "\\"⟩, ⟨"content-length", "9"⟩]
        body := "é\x00x" }
    parse message = .ok (some frame) ∧ message.utf8ByteSize ≤ Text.maxSize ∧
      ∃ again : Frame, parse frame.encode = .ok (some again) ∧
        again.headers = frame.headers ∧ again.encode = frame.encode := by
  intro headers message frame
  have hparse : parse message = .ok (some frame) := by decide +kernel
  have hbytes : message.utf8ByteSize = 66 := by decide
  have hsize : message.utf8ByteSize ≤ Text.maxSize := by
    rw [hbytes, Text.maxSize_eq]
    omega
  obtain ⟨again, hagain, _, _, hheaders, hencode⟩ := parse_encode_of_parse hsize hparse
  exact ⟨hparse, hsize, again, hagain, hheaders, hencode⟩

end Frame

end ClassroomClient.Stomp
