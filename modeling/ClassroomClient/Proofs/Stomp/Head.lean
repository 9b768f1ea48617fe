/-
# The head of a message

A message has a head and what is behind it. The head are the line ends in front, the command line,
the header lines and the blank line that ends them; `splitBlank` finds its end without reading any
line. What the reader makes of the head is `readHead`, and the rest is the body's. Texts are taken
apart line by line: `line_induction` is the induction, and the lemmas beside it say what the reader
does at one line.
-/

import ClassroomClient.Proofs.Stomp.Header

namespace ClassroomClient.Stomp

namespace Frame

/-! ## Lines -/

variable {escaped blank : Bool} {line rest text : List Char}

theorem splitLine?_eq_none : splitLine? text = none ↔ '\n' ∉ text := by
  fun_induction splitLine? text with
  | case1 => simp
  | case2 => simp
  | case3 c tail hfeed ih => simp [ih, Ne.symm hfeed]

/-- A text is a line that nothing ends, or a line with its line feed in front of a text. -/
theorem line_induction {motive : List Char → Prop}
    (hlast : ∀ line, '\n' ∉ line → motive line)
    (hline : ∀ line rest, '\n' ∉ line → motive rest → motive (line ++ '\n' :: rest))
    (text : List Char) : motive text := by
  cases hsplit : splitLine? text with
  | none => exact hlast text (splitLine?_eq_none.1 hsplit)
  | some pair =>
      obtain ⟨line, rest⟩ := pair
      have hshorter := length_lt_of_splitLine? hsplit
      obtain ⟨rfl, hfeed⟩ := splitLine?_eq_some hsplit
      exact hline line rest hfeed (line_induction hlast hline rest)
termination_by text.length

/-- Nothing is shown of a line that holds nothing but carriage returns. -/
theorem dropReturns_eq_nil : dropReturns line = [] ↔ line.all (· == '\r') = true := by
  rw [dropReturns, Text.dropTrailing_eq_nil, List.all_eq_true]

/-! ## Cutting behind the blank line -/

/-- Cuts a text behind its first blank line, that is a line of nothing but carriage returns. `blank`
tells whether what stands on its first line before the text is blank so far. -/
def splitBlank (blank : Bool) : List Char → List Char × List Char
  | [] => ([], [])
  | c :: rest =>
    if c = '\n' then
      if blank then ([c], rest) else (splitBlank true rest).map (c :: ·) id
    else
      (splitBlank (blank && c == '\r') rest).map (c :: ·) id

/-- The head of a message: the line ends in front and all lines up to the blank one. -/
def headText (message : String) : List Char :=
  message.toList.takeWhile isLineEnd ++ (splitBlank false (message.toList.dropWhile isLineEnd)).1

/-- What stands behind the blank line of a message. -/
def bodyText (message : String) : List Char :=
  (splitBlank false (message.toList.dropWhile isLineEnd)).2

@[simp] theorem splitBlank_append (blank : Bool) (text : List Char) :
    (splitBlank blank text).1 ++ (splitBlank blank text).2 = text := by
  fun_induction splitBlank blank text with
  | case1 => rfl
  | case2 rest => rfl
  | case3 blank rest _ ih => exact congrArg ('\n' :: ·) ih
  | case4 blank c rest _ ih => exact congrArg (c :: ·) ih

/-- The head and what is behind it are the message. -/
theorem headText_append_bodyText (message : String) :
    headText message ++ bodyText message = message.toList := by
  rw [headText, bodyText, List.append_assoc, splitBlank_append, List.takeWhile_append_dropWhile]

theorem splitBlank_last (hline : '\n' ∉ line) (blank : Bool) :
    splitBlank blank line = (line, []) := by
  induction line generalizing blank with
  | nil => rfl
  | cons c tail ih =>
      obtain ⟨hc, htail⟩ := by simpa only [List.mem_cons, not_or] using hline
      rw [splitBlank, if_neg (Ne.symm hc), ih htail]
      rfl

/-- The cut is behind the first line if that is blank, and else where it is in the text behind. -/
theorem splitBlank_line (hline : '\n' ∉ line) (blank : Bool) (rest : List Char) :
    splitBlank blank (line ++ '\n' :: rest) =
      if blank && line.all (· == '\r') then (line ++ ['\n'], rest)
      else (splitBlank true rest).map (line ++ '\n' :: ·) id := by
  induction line generalizing blank with
  | nil => cases blank <;> rfl
  | cons c tail ih =>
      obtain ⟨hc, htail⟩ := by simpa only [List.mem_cons, not_or] using hline
      rw [List.cons_append, splitBlank, if_neg (Ne.symm hc), ih htail, List.all_cons,
        Bool.and_assoc]
      split <;> rfl

/-! ## Reading the head -/

theorem exists_of_map_eq_ok {α β : Type} {read : Except FrameError α} {change : α → β}
    {result : β} (hread : read.map change = .ok result) :
    ∃ value, read = .ok value ∧ change value = result := by
  cases read with
  | error fault => cases hread
  | ok value => exact ⟨value, rfl, Except.ok.inj hread⟩

theorem readHeaders_last (hline : '\n' ∉ line) : readHeaders escaped line = .error .truncated := by
  rw [readHeaders]
  split
  next => rfl
  next hsome => simp [splitLine?_eq_none.2 hline] at hsome

/-- The headers end at a blank line. Every other line is a header, and the lines behind it are read
in the same way. -/
theorem readHeaders_line (hline : '\n' ∉ line) (rest : List Char) :
    readHeaders escaped (line ++ '\n' :: rest) =
      if dropReturns line = [] then .ok ([], rest)
      else (readHeader escaped (dropReturns line)).bind fun header =>
        (readHeaders escaped rest).map fun (headers, behind) => (header :: headers, behind) := by
  have hsplit := splitLine?_append hline rest
  rw [readHeaders]
  split
  next hnone => simp [hsplit] at hnone
  next line' rest' hsome =>
    obtain ⟨rfl, rfl⟩ : line = line' ∧ rest = rest' := by simpa [hsplit] using hsome
    split
    next hblank => rw [if_pos hblank]
    next hshown =>
      rw [if_neg hshown]
      cases readHeader escaped (dropReturns line) with
      | error fault => rfl
      | ok header => cases readHeaders escaped rest <;> rfl

/-- Reads the head of a frame, and returns its command, its headers and the text behind. -/
def readHead (text : List Char) : Except FrameError (Command × List Header × List Char) :=
  match splitLine? text with
  | none => .error .truncated
  | some (line, rest) =>
    let name := String.ofList (dropReturns line)
    match Command.ofWireName? name with
    | none => .error (.unknownCommand name)
    | some command =>
      (readHeaders command.escapesHeaders rest).map fun (headers, behind) =>
        (command, headers, behind)

theorem readHead_last (hline : '\n' ∉ line) : readHead line = .error .truncated := by
  rw [readHead, splitLine?_eq_none.2 hline]

theorem readHead_line (hline : '\n' ∉ line) (rest : List Char) :
    readHead (line ++ '\n' :: rest) =
      match Command.ofWireName? (String.ofList (dropReturns line)) with
      | none => .error (.unknownCommand (String.ofList (dropReturns line)))
      | some command =>
        (readHeaders command.escapesHeaders rest).map fun (headers, behind) =>
          (command, headers, behind) := by
  rw [readHead, splitLine?_append hline]

/-- What is behind the header lines is what is behind the blank line. -/
theorem behind_of_readHeaders {headers : List Header} {behind : List Char}
    (hread : readHeaders escaped text = .ok (headers, behind)) :
    (splitBlank true text).2 = behind := by
  induction text using line_induction generalizing headers with
  | hlast line hline =>
      rw [readHeaders_last hline] at hread
      cases hread
  | hline line rest hline ih =>
      rw [readHeaders_line hline] at hread
      rw [splitBlank_line hline, Bool.true_and]
      by_cases hblank : dropReturns line = []
      · rw [if_pos hblank] at hread
        cases hread
        rw [if_pos (dropReturns_eq_nil.1 hblank)]
      · rw [if_neg hblank] at hread
        rw [if_neg (fun hall => hblank (dropReturns_eq_nil.2 hall))]
        obtain ⟨header, _, hread⟩ := exists_of_bind hread
        obtain ⟨⟨more, after⟩, hmore, hpair⟩ := exists_of_map_eq_ok hread
        cases hpair
        exact ih hmore

/-- A head that was read is a command line and the header lines behind it. -/
theorem exists_line_of_readHead {command : Command} {headers : List Header} {behind : List Char}
    (hread : readHead text = .ok (command, headers, behind)) :
    ∃ line rest, text = line ++ '\n' :: rest ∧ '\n' ∉ line ∧
      Command.ofWireName? (String.ofList (dropReturns line)) = some command ∧
      readHeaders command.escapesHeaders rest = .ok (headers, behind) := by
  cases text using line_induction with
  | hlast line hline =>
      rw [readHead_last hline] at hread
      cases hread
  | hline line rest hline _ =>
      rw [readHead_line hline] at hread
      split at hread
      · cases hread
      · next other hname =>
        obtain ⟨⟨headers, behind⟩, hheaders, htriple⟩ := exists_of_map_eq_ok hread
        cases htriple
        exact ⟨line, rest, rfl, hline, hname, hheaders⟩

/-- What is behind the head is what is behind the blank line. -/
theorem behind_of_readHead {command : Command} {headers : List Header} {behind : List Char}
    (hread : readHead text = .ok (command, headers, behind)) :
    (splitBlank false text).2 = behind := by
  obtain ⟨line, rest, rfl, hline, _, hheaders⟩ := exists_line_of_readHead hread
  rw [splitBlank_line hline, Bool.false_and, if_neg (by decide), Prod.map_snd]
  exact behind_of_readHeaders hheaders

/-! ## Bodies -/

/-- A body whose length is given is what its bytes are cut out as. -/
theorem readBody_eq_ok {headers : List Header} {behind : List Char} {length body : String}
    (hlength : lookup? headers contentLength = some length) :
    readBody headers behind = .ok body ↔
      ∃ size, Text.readSize? (Text.trim length.toList) = some size ∧
        Text.takeUtf8? size behind = some body.toList := by
  unfold readBody
  rw [hlength]
  dsimp only
  cases Text.readSize? (Text.trim length.toList) with
  | none => simp
  | some size =>
      dsimp only
      cases hcut : Text.takeUtf8? size behind with
      | none => simp [hcut]
      | some chars =>
          have hsame : String.ofList chars = body ↔ chars = body.toList :=
            ⟨fun h => by rw [← h, String.toList_ofList], fun h => by rw [h, String.ofList_toList]⟩
          simpa [hcut] using hsame

/-- A body is refused for its length alone. The error names a length that is no size as the header
has it, and a size that reaches past the text or into a character as the number that was read. -/
theorem readBody_eq_error {headers : List Header} {behind : List Char} {fault : FrameError} :
    readBody headers behind = .error fault ↔
      ∃ length, lookup? headers contentLength = some length ∧
        ((Text.readSize? (Text.trim length.toList) = none ∧
            fault = .invalidContentLength length) ∨
          ∃ size, Text.readSize? (Text.trim length.toList) = some size ∧
            Text.takeUtf8? size behind = none ∧
            fault = .invalidContentLength (String.ofList (Text.decimal size))) := by
  unfold readBody
  cases lookup? headers contentLength with
  | none => simp
  | some length =>
      dsimp only
      cases hsize : Text.readSize? (Text.trim length.toList) with
      | none => simp [hsize, eq_comm]
      | some size =>
          dsimp only
          cases hcut : Text.takeUtf8? size behind <;> simp [hsize, hcut, eq_comm]

/-! ## Reading whole messages -/

/-- The body is read last, by the headers. -/
theorem parseFrame_eq (text : List Char) :
    parseFrame text = (readHead text).bind fun (command, headers, behind) =>
      (readBody headers behind).map fun body => { command, headers, body } := by
  unfold parseFrame readHead
  cases splitLine? text with
  | none => rfl
  | some pair =>
      obtain ⟨line, rest⟩ := pair
      dsimp only
      cases Command.ofWireName? (String.ofList (dropReturns line)) with
      | none => rfl
      | some command =>
          dsimp only
          cases readHeaders command.escapesHeaders rest <;> rfl

/-- A frame has the command and the headers of its head. -/
theorem parseFrame_eq_ok {frame : Frame} :
    parseFrame text = .ok frame ↔
      ∃ behind, readHead text = .ok (frame.command, frame.headers, behind) ∧
        readBody frame.headers behind = .ok frame.body := by
  rw [parseFrame_eq]
  constructor
  · intro hread
    obtain ⟨⟨command, headers, behind⟩, hhead, hread⟩ := exists_of_bind hread
    obtain ⟨body, hbody, rfl⟩ := exists_of_map_eq_ok hread
    exact ⟨behind, hhead, hbody⟩
  · rintro ⟨behind, hhead, hbody⟩
    simp [hhead, Except.bind, hbody, Except.map]

/-- What is wrong with a frame is wrong with its head or with its body. -/
theorem parseFrame_eq_error {fault : FrameError} :
    parseFrame text = .error fault ↔
      readHead text = .error fault ∨ ∃ command headers behind,
        readHead text = .ok (command, headers, behind) ∧
          readBody headers behind = .error fault := by
  rw [parseFrame_eq]
  cases hhead : readHead text with
  | error other => simp [Except.bind]
  | ok read =>
      obtain ⟨command, headers, behind⟩ := read
      cases hbody : readBody headers behind with
      | error other => simp [Except.bind, hbody, Except.map]
      | ok body => simp [Except.bind, hbody, Except.map]

/-- Behind its line ends, a heart-beat holds nothing or a NUL alone. -/
def IsHeartBeat (text : List Char) : Prop := text = [] ∨ text = ['\x00']

instance (text : List Char) : Decidable (IsHeartBeat text) :=
  inferInstanceAs (Decidable (_ ∨ _))

/-- Every message but a heart-beat is read as a frame. -/
theorem parse_eq (message : String) :
    parse message =
      if IsHeartBeat (message.toList.dropWhile isLineEnd) then .ok none
      else (parseFrame (message.toList.dropWhile isLineEnd)).map some := by
  unfold parse
  split
  next hempty =>
    rw [if_pos]
    exact .inl hempty
  next hnul =>
    rw [if_pos]
    exact .inr hnul
  next hempty hnul =>
    rw [if_neg]
    exact not_or.2 ⟨hempty, hnul⟩

end Frame

end ClassroomClient.Stomp
