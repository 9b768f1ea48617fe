/-
# Frames read back from their texts

`Frame.parse` undoes `Frame.encode`. The text of a frame ends itself: line ends in front of it and
any text behind it make no difference, since the body is cut out by its length or at its NUL. The
only trace of the way over the wire is the length of the body, which becomes a header of the frame
unless it was one before.
-/

import ClassroomClient.Proofs.Stomp.Head

namespace ClassroomClient.Stomp

namespace Command

@[simp] theorem ofWireName?_wireName (command : Command) :
    ofWireName? command.wireName = some command := by
  cases command <;> rfl

theorem lineFeed_not_mem_wireName (command : Command) : '\n' ∉ command.wireName.toList := by
  cases command <;> decide

theorem wireName_eq_cons (command : Command) :
    ∃ first rest, command.wireName.toList = first :: rest ∧
      Frame.isLineEnd first = false ∧ first ≠ '\x00' := by
  cases command <;> exact ⟨_, _, rfl, rfl, by decide⟩

end Command

namespace Frame

@[simp] theorem dropReturns_wireName (command : Command) :
    dropReturns command.wireName.toList = command.wireName.toList := by
  cases command <;> rfl

/-! ## The header block -/

/-- Headers that fit are read back from their block, up to the empty line behind it. -/
theorem readHeaders_headerBlock {escaped : Bool} {headers : List Header}
    (hfits : ∀ header ∈ headers, header.Fits escaped) (rest : List Char) :
    readHeaders escaped (headerBlock escaped headers ++ '\n' :: rest) = .ok (headers, rest) := by
  induction headers with
  | nil => exact readHeaders_line List.not_mem_nil rest
  | cons header headers ih =>
      have hheader := hfits header List.mem_cons_self
      have hmore := ih fun other hmem => hfits other (List.mem_cons_of_mem _ hmem)
      have htext : headerBlock escaped (header :: headers) ++ '\n' :: rest =
          headerLine escaped header ++ '\n' :: (headerBlock escaped headers ++ '\n' :: rest) := by
        simp [headerBlock]
      rw [htext, readHeaders_line (lineFeed_not_mem_headerLine hheader),
        dropReturns_headerLine hheader, if_neg (headerLine_ne_nil escaped header),
        readHeader_headerLine hheader, hmore]
      rfl

/-! ## The body -/

/-- What a frame must be like for its text to keep it: a length that its headers give must be that
of the body, and the headers must fit on the lines of its command. -/
structure IsWritable (frame : Frame) : Prop where
  length_agrees : ∀ value, frame.header? contentLength = some value →
    Text.readSize? (Text.trim value.toList) = some frame.body.utf8ByteSize
  headers_plain : frame.command = .connect ∨ frame.command = .connected →
    ∀ header ∈ frame.headers, header.IsPlain

/-- The header that gives the length of a body. -/
def lengthHeader (body : String) : Header :=
  { name := contentLength, value := toString body.utf8ByteSize }

/-- The frame as it is read back. -/
def sized (frame : Frame) : Frame :=
  if frame.body = "" ∨ (frame.header? contentLength).isSome then frame
  else { frame with headers := frame.headers ++ [lengthHeader frame.body] }

variable (frame : Frame)

theorem wireHeaders_eq : frame.wireHeaders = frame.sized.headers := by
  have hlength : String.ofList (Text.decimal (Text.utf8Length frame.body.toList)) =
      toString frame.body.utf8ByteSize := by
    rw [Text.utf8Length_toList, Text.decimal, Nat.toString_eq_ofList_toDigits]
  by_cases hkept : frame.body = "" ∨ (frame.header? contentLength).isSome
  · rw [sized, if_pos hkept, wireHeaders, if_pos (by simpa using hkept)]
  · rw [sized, if_neg hkept, wireHeaders, if_neg (by simpa using hkept), hlength]
    rfl

theorem sized_eq : frame.sized = { frame with headers := frame.wireHeaders } := by
  rw [wireHeaders_eq]
  unfold sized
  split <;> rfl

theorem isPlain_lengthHeader (body : String) : (lengthHeader body).IsPlain := by
  have hdigit : ∀ c ∈ (lengthHeader body).value.toList, c.isDigit = true := by
    intro c hmem
    rw [lengthHeader, Nat.toString_eq_ofList_toDigits, String.toList_ofList] at hmem
    exact Text.isDigit_of_mem_decimal hmem
  exact {
    name_no_colon := by simp [lengthHeader, contentLength]
    name_no_lineFeed := by simp [lengthHeader, contentLength]
    value_no_lineFeed := fun hmem => absurd (hdigit _ hmem) (by decide)
    value_no_last_return := fun heq =>
      absurd (hdigit _ (List.mem_of_getLast? heq)) (by decide) }

variable {frame}

/-- All headers that are written fit on their lines. -/
theorem IsWritable.fits (hwritable : frame.IsWritable) :
    ∀ header ∈ frame.wireHeaders, header.Fits frame.command.escapesHeaders := by
  intro header hmem hescapes
  have hcommand : frame.command = .connect ∨ frame.command = .connected := by
    cases hcase : frame.command <;> simp [hcase, Command.escapesHeaders] at hescapes ⊢
  rw [wireHeaders_eq, sized] at hmem
  split at hmem
  · exact hwritable.headers_plain hcommand header hmem
  · rcases List.mem_append.1 hmem with hmem | hmem
    · exact hwritable.headers_plain hcommand header hmem
    · obtain rfl : header = lengthHeader frame.body := by simpa using hmem
      exact isPlain_lengthHeader frame.body

theorem lookup?_append_of_none {headers : List Header} {name : String}
    (hnone : lookup? headers name = none) (more : List Header) :
    lookup? (headers ++ more) name = lookup? more name := by
  rw [lookup?, List.find?_append, Option.map_eq_none_iff.1 hnone, Option.none_or]
  rfl

/-- The length that the written headers give, if they give one, is that of the body. They give
one whenever there is a body. -/
theorem IsWritable.lookup?_wireHeaders (hwritable : frame.IsWritable)
    (hsize : frame.body.utf8ByteSize ≤ Text.maxSize) :
    (frame.body = "" ∧ lookup? frame.wireHeaders contentLength = none) ∨
      ∃ value, lookup? frame.wireHeaders contentLength = some value ∧
        Text.readSize? (Text.trim value.toList) = some frame.body.utf8ByteSize := by
  rw [wireHeaders_eq, sized]
  cases hgiven : frame.header? contentLength with
  | some value =>
      rw [if_pos (by simp)]
      exact .inr ⟨value, hgiven, hwritable.length_agrees value hgiven⟩
  | none =>
      by_cases hbody : frame.body = ""
      · rw [if_pos (.inl hbody)]
        exact .inl ⟨hbody, hgiven⟩
      · have hread : Text.readSize? (Text.trim (toString frame.body.utf8ByteSize).toList) =
            some frame.body.utf8ByteSize := by
          rw [Nat.toString_eq_ofList_toDigits, String.toList_ofList]
          exact (congrArg Text.readSize? (Text.trim_decimal _)).trans
            (Text.readSize?_decimal hsize)
        rw [if_neg (by simp [hbody])]
        refine .inr ⟨_, ?_, hread⟩
        rw [lookup?_append_of_none hgiven]
        simp [lookup?, lengthHeader]

/-- The body is cut out of the text behind the empty line, whatever follows its NUL. -/
theorem IsWritable.readBody_wireHeaders (hwritable : frame.IsWritable)
    (hsize : frame.body.utf8ByteSize ≤ Text.maxSize) (trail : List Char) :
    readBody frame.wireHeaders (frame.body.toList ++ '\x00' :: trail) = .ok frame.body := by
  rcases hwritable.lookup?_wireHeaders hsize with ⟨hbody, hnone⟩ | ⟨value, hsome, hread⟩
  · rw [readBody, hnone, hbody]
    rfl
  · have hcut := Text.takeUtf8?_utf8Length_append frame.body.toList ('\x00' :: trail)
    rw [Text.utf8Length_toList] at hcut
    exact (readBody_eq_ok hsome).2 ⟨_, hread, hcut⟩

/-! ## Whole texts -/

theorem toList_encode_append (frame : Frame) (trail : List Char) :
    frame.encode.toList ++ trail =
      frame.command.wireName.toList ++ '\n' ::
        (headerBlock frame.command.escapesHeaders frame.wireHeaders ++
          '\n' :: (frame.body.toList ++ '\x00' :: trail)) := by
  simp [encode]

theorem IsWritable.parseFrame_encode (hwritable : frame.IsWritable)
    (hsize : frame.body.utf8ByteSize ≤ Text.maxSize) (trail : List Char) :
    parseFrame (frame.encode.toList ++ trail) = .ok frame.sized := by
  have hline := splitLine?_append (Command.lineFeed_not_mem_wireName frame.command)
    (headerBlock frame.command.escapesHeaders frame.wireHeaders ++
      '\n' :: (frame.body.toList ++ '\x00' :: trail))
  have hheaders := readHeaders_headerBlock hwritable.fits (frame.body.toList ++ '\x00' :: trail)
  have hbody := hwritable.readBody_wireHeaders hsize trail
  rw [toList_encode_append, parseFrame, hline, sized_eq]
  simp only [dropReturns_wireName, String.ofList_toList, Command.ofWireName?_wireName, hheaders]
  simp only [bind, Except.bind, hbody]
  rfl

/-- Line ends in front of a frame are passed over. -/
theorem dropWhile_isLineEnd_append {lead text : List Char}
    (hlead : ∀ c ∈ lead, c = '\r' ∨ c = '\n') :
    (lead ++ text).dropWhile isLineEnd = text.dropWhile isLineEnd := by
  rw [List.dropWhile_append_of_pos]
  intro c hmem
  rcases hlead c hmem with rfl | rfl <;> rfl

/-- A frame that can be written is read back from its text, wherever that stands between line ends
and other text. -/
theorem IsWritable.parse_text (hwritable : frame.IsWritable)
    (hsize : frame.body.utf8ByteSize ≤ Text.maxSize) (lead trail : String)
    (hlead : ∀ c ∈ lead.toList, c = '\r' ∨ c = '\n') :
    parse (lead ++ frame.encode ++ trail) = .ok (some frame.sized) := by
  have hframe := hwritable.parseFrame_encode hsize trail.toList
  obtain ⟨first, name, hname, hfirst, hnul⟩ := Command.wireName_eq_cons frame.command
  have htext : ∃ rest, frame.encode.toList ++ trail.toList = first :: rest := by
    rw [toList_encode_append, hname]
    exact ⟨_, rfl⟩
  obtain ⟨rest, hrest⟩ := htext
  rw [parse, String.toList_append, String.toList_append, List.append_assoc,
    dropWhile_isLineEnd_append hlead, hrest, List.dropWhile_cons_of_neg (by simp [hfirst])]
  split
  next hempty => simp at hempty
  next hbeat => exact absurd (List.cons.inj hbeat).1 hnul
  next => rw [← hrest, hframe]; rfl

/-- The text of a frame by itself. -/
theorem IsWritable.parse_encode (hwritable : frame.IsWritable)
    (hsize : frame.body.utf8ByteSize ≤ Text.maxSize) :
    parse frame.encode = .ok (some frame.sized) := by
  have htext := hwritable.parse_text hsize "" "" (by simp)
  rwa [String.empty_append, String.append_empty] at htext

/-- A frame whose own length header, if any, is right and whose headers fit is read back from its
text with any line ends in front and any text behind. It comes back as it was, with the length of
its body as a last header if there is a body and no such header. -/
theorem parse_append_encode_append (frame : Frame) (lead trail : String)
    (hlead : ∀ c ∈ lead.toList, c = '\r' ∨ c = '\n')
    (hsize : frame.body.utf8ByteSize < 2 ^ 63)
    (hwritable : frame.IsWritable) :
    parse (lead ++ frame.encode ++ trail) =
      .ok (some (if frame.body = "" ∨ (frame.header? contentLength).isSome then frame
        else { frame with headers := frame.headers ++
          [{ name := "content-length", value := toString frame.body.utf8ByteSize }] })) := by
  have hfits : frame.body.utf8ByteSize ≤ Text.maxSize := by
    rw [Text.maxSize_eq]
    omega
  exact hwritable.parse_text hfits lead trail hlead

/-- A handshake frame with a colon in a value, a signed length and a NUL in its body. -/
theorem parse_append_encode_append_connected :
    let frame : Frame :=
      { command := .connected
        headers := [⟨"server", "127.0.0.1:8080"⟩, ⟨"content-length", " +4"⟩]
        body := "é\x00x" }
    parse ("\r\n" ++ frame.encode ++ "MESSAGE\n") = .ok (some frame) := by
  intro frame
  have hwritable : frame.IsWritable := {
    length_agrees := by
      rintro value ⟨⟩
      decide
    headers_plain := by
      intro _ header hmem
      rcases List.mem_cons.1 hmem with rfl | hmem
      · constructor <;> decide
      · obtain rfl := List.mem_singleton.1 hmem
        constructor <;> decide }
  have hbytes : frame.body.utf8ByteSize = 4 := by decide
  exact parse_append_encode_append frame "\r\n" "MESSAGE\n" (by simp) (by omega) hwritable

end Frame

end ClassroomClient.Stomp
