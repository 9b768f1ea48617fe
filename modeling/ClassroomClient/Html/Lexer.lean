/-
# Lexer

Reads one tag, comment, document type or character at a time. What is read depends on the kind
of text that the builder expects; reading may change that kind. A tag that the text breaks off
is dropped.
-/

import ClassroomClient.Html.Reference

namespace ClassroomClient.Html

/-- What one step of the lexer gives. -/
structure Lexeme where
  tokens : List Token
  content : Content
  rest : List Char
  deriving Inhabited

/-! ## Tags -/

/-- Reads a value up to a stop. The value is kept with its last character first. The fuel
bounds the number of steps. -/
def readValue (stops : Char → Bool) : Nat → List Char → List Char → List Char × List Char
  | 0, value, text => (value.reverse, text)
  | _, value, [] => (value.reverse, [])
  | fuel + 1, value, c :: rest =>
    if stops c then (value.reverse, c :: rest)
    else if c == '&' then
      match reference? true rest with
      | some (characters, behind) => readValue stops fuel (characters.reverse ++ value) behind
      | none => readValue stops fuel (c :: value) rest
    else readValue stops fuel (shown c :: value) rest

/-- Reads what follows the equals sign of an attribute. A value between quotes that the text
breaks off is none. -/
def readAssigned (text : List Char) : Option (List Char × List Char) :=
  let quoted (quote : Char) (rest : List Char) :=
    match readValue (· == quote) (rest.length + 1) [] rest with
    | (value, _ :: behind) => some (value, behind)
    | (_, []) => none
  match text.dropWhile isSpace with
  | '"' :: rest => quoted '"' rest
  | '\x27' :: rest => quoted '\x27' rest
  | '>' :: rest => some ([], '>' :: rest)
  | rest => some (readValue (fun c => isSpace c || c == '>') (rest.length + 1) [] rest)

/-- Whether a character ends the name of an attribute after its first character. -/
def endsAttributeName (c : Char) : Bool := isSpace c || c == '/' || c == '>' || c == '='

/-- A name as it is kept. -/
def keptName (name : List Char) : String := String.ofList (name.map fun c => (shown c).toLower)

/-- Adds an attribute unless one of its name is there. -/
def addAttribute (attributes : List (String × String)) (name : String) (value : List Char) :
    List (String × String) :=
  if (attributes.lookup name).isSome then attributes
  else attributes ++ [(name, String.ofList value)]

/-- Reads the attributes of a tag and its end: whether it closes itself, and the text behind
it. The fuel bounds the number of steps. -/
def readAttributes : Nat → List (String × String) → List Char →
    Option (List (String × String) × Bool × List Char)
  | 0, _, _ => none
  | fuel + 1, attributes, text =>
    match text.dropWhile isSpace with
    | [] => none
    | '>' :: rest => some (attributes, false, rest)
    | '/' :: '>' :: rest => some (attributes, true, rest)
    | '/' :: rest => readAttributes fuel attributes rest
    | c :: rest =>
      let name := keptName (c :: rest.takeWhile (!endsAttributeName ·))
      let behind := (rest.dropWhile (!endsAttributeName ·)).dropWhile isSpace
      match behind with
      | '=' :: assigned =>
        match readAssigned assigned with
        | none => none
        | some (value, rest) => readAttributes fuel (addAttribute attributes name value) rest
      | _ => readAttributes fuel (addAttribute attributes name []) behind

/-- Whether a character ends the name of a tag. -/
def endsTagName (c : Char) : Bool := isSpace c || c == '/' || c == '>'

/-- Reads a tag from its name on. -/
def readTag (text : List Char) : Option (Tag × List Char) :=
  let name := keptName (text.takeWhile (!endsTagName ·))
  let behind := text.dropWhile (!endsTagName ·)
  match readAttributes (behind.length + 1) [] behind with
  | none => none
  | some (attributes, selfClosing, rest) => some ({ name, attributes, selfClosing }, rest)

/-! ## Comments and document types -/

/-- Where the reader of a comment stands. -/
inductive CommentState
  | start
  | startDash
  | inside
  | dash
  | twoDashes
  | bang
  deriving DecidableEq, Repr

/-- Reads a comment to its end. The text read so far has its last character first. -/
def readComment : CommentState → List Char → List Char → List Char × List Char
  | _, read, [] => (read.reverse, [])
  | state, read, c :: rest =>
    match state with
    | .start =>
      if c == '-' then readComment .startDash read rest
      else if c == '>' then (read.reverse, rest)
      else readComment .inside (shown c :: read) rest
    | .startDash =>
      if c == '-' then readComment .twoDashes read rest
      else if c == '>' then (read.reverse, rest)
      else readComment .inside (shown c :: '-' :: read) rest
    | .inside =>
      if c == '-' then readComment .dash read rest
      else readComment .inside (shown c :: read) rest
    | .dash =>
      if c == '-' then readComment .twoDashes read rest
      else readComment .inside (shown c :: '-' :: read) rest
    | .twoDashes =>
      if c == '>' then (read.reverse, rest)
      else if c == '!' then readComment .bang read rest
      else if c == '-' then readComment .twoDashes ('-' :: read) rest
      else readComment .inside (shown c :: '-' :: '-' :: read) rest
    | .bang =>
      if c == '-' then readComment .dash ('!' :: '-' :: '-' :: read) rest
      else if c == '>' then (read.reverse, rest)
      else readComment .inside (shown c :: '!' :: '-' :: '-' :: read) rest

/-- Takes a construct that has no meaning as a comment, up to the next `>`. -/
def readBogus (text : List Char) : Token × List Char :=
  let inside := text.takeWhile (· != '>')
  (.comment (String.ofList (inside.map shown)), (text.dropWhile (· != '>')).drop 1)

/-- Whether a text starts with a word written in small letters, whatever its case. -/
def startsWithWord (word : String) (text : List Char) : Bool :=
  (text.take word.length).map Char.toLower == word.toList

/-- The document type, and what is left after the next `>`. -/
def endDoctype (doctype : Doctype) (text : List Char) : Doctype × List Char :=
  (doctype, (text.dropWhile (· != '>')).drop 1)

/-- Reads an identifier of a document type after its quote, up to the same quote. -/
def readIdentifier (quote : Char) (text : List Char) : String × List Char :=
  let stops (c : Char) := c == quote || c == '>'
  (String.ofList ((text.takeWhile (!stops ·)).map shown), text.dropWhile (!stops ·))

/-- Reads the system identifier of a document type and its end. `required` says whether one
has been announced. -/
def readSystemId (doctype : Doctype) (required : Bool) (text : List Char) :
    Doctype × List Char :=
  let quoted (quote : Char) (rest : List Char) :=
    let (identifier, behind) := readIdentifier quote rest
    let doctype := { doctype with systemId := some identifier }
    match behind with
    | c :: behind =>
      if c == quote then
        endDoctype { doctype with isBroken := behind.all isSpace } behind
      else ({ doctype with isBroken := true }, behind)
    | [] => ({ doctype with isBroken := true }, [])
  match text.dropWhile isSpace with
  | '"' :: rest => quoted '"' rest
  | '\x27' :: rest => quoted '\x27' rest
  | '>' :: rest => ({ doctype with isBroken := required }, rest)
  | rest => endDoctype { doctype with isBroken := true } rest

/-- Reads the public identifier of a document type and what follows it. -/
def readPublicId (doctype : Doctype) (text : List Char) : Doctype × List Char :=
  let quoted (quote : Char) (rest : List Char) :=
    let (identifier, behind) := readIdentifier quote rest
    let doctype := { doctype with publicId := some identifier }
    match behind with
    | c :: behind =>
      if c == quote then readSystemId doctype false behind
      else ({ doctype with isBroken := true }, behind)
    | [] => ({ doctype with isBroken := true }, [])
  match text.dropWhile isSpace with
  | '"' :: rest => quoted '"' rest
  | '\x27' :: rest => quoted '\x27' rest
  | rest => endDoctype { doctype with isBroken := true } rest

/-- Reads a document type after its keyword. -/
def readDoctype (text : List Char) : Doctype × List Char :=
  match text.dropWhile isSpace with
  | [] => ({ isBroken := true }, [])
  | '>' :: rest => ({ isBroken := true }, rest)
  | rest =>
    let ends (c : Char) := isSpace c || c == '>'
    let doctype : Doctype := { name := some (keptName (rest.takeWhile (!ends ·))) }
    let behind := (rest.dropWhile (!ends ·)).dropWhile isSpace
    match behind with
    | [] => ({ doctype with isBroken := true }, [])
    | '>' :: rest => (doctype, rest)
    | _ =>
      if startsWithWord "public" behind then readPublicId doctype (behind.drop 6)
      else if startsWithWord "system" behind then readSystemId doctype true (behind.drop 6)
      else endDoctype { doctype with isBroken := true } behind

/-- Reads a section of plain characters up to its end. -/
def readSection : List Char → List Char → List Char × List Char
  | read, ']' :: ']' :: '>' :: rest => (read.reverse, rest)
  | read, c :: rest => readSection (c :: read) rest
  | read, [] => (read.reverse, [])

/-! ## Steps -/

/-- The token of a character outside of names and values. -/
def tokenOfChar (c : Char) : Token := if c == '\x00' then .null else .char c

/-- Reads what follows the opening `<!`. -/
def declaration (allowsSection : Bool) (text : List Char) : Lexeme :=
  match text with
  | '-' :: '-' :: rest =>
    let (comment, behind) := readComment .start [] rest
    { tokens := [.comment (String.ofList comment)], content := .markup, rest := behind }
  | _ =>
    if startsWithWord "doctype" text then
      let (doctype, behind) := readDoctype (text.drop 7)
      { tokens := [.doctype doctype], content := .markup, rest := behind }
    else if allowsSection && text.take 7 == "[CDATA[".toList then
      let (characters, behind) := readSection [] (text.drop 7)
      { tokens := characters.map tokenOfChar, content := .markup, rest := behind }
    else
      let (token, behind) := readBogus text
      { tokens := [token], content := .markup, rest := behind }

/-- Reads an ampersand, either as the start of a reference or as itself. -/
def ampersand (content : Content) (rest : List Char) : Lexeme :=
  match reference? false rest with
  | some (characters, behind) => { tokens := characters.map .char, content, rest := behind }
  | none => { tokens := [.char '&'], content, rest }

/-- Reads a token where tags are allowed. `rest` follows a `<`. -/
def markupAfterAngle (allowsSection : Bool) (rest : List Char) : Lexeme :=
  match rest with
  | '!' :: more => declaration allowsSection more
  | '?' :: _ =>
    let (token, behind) := readBogus rest
    { tokens := [token], content := .markup, rest := behind }
  | '/' :: '>' :: more => { tokens := [], content := .markup, rest := more }
  | '/' :: c :: more =>
    if c.isAlpha then
      match readTag (c :: more) with
      | some (tag, behind) =>
        { tokens := [.endTag tag.name], content := .markup, rest := behind }
      | none => { tokens := [], content := .markup, rest := [] }
    else
      let (token, behind) := readBogus (c :: more)
      { tokens := [token], content := .markup, rest := behind }
  | c :: more =>
    if c.isAlpha then
      match readTag (c :: more) with
      | some (tag, behind) => { tokens := [.startTag tag], content := .markup, rest := behind }
      | none => { tokens := [], content := .markup, rest := [] }
    else { tokens := [.char '<'], content := .markup, rest }
  | [] => { tokens := [.char '<'], content := .markup, rest }

/-- The text from the name of the end tag on, if the text behind a `<` is an end tag of the
element. -/
def endTagOf? (element : String) (rest : List Char) : Option (List Char) :=
  match rest with
  | '/' :: more =>
    if startsWithWord element more then
      match more.drop element.length with
      | c :: _ => if endsTagName c then some more else none
      | [] => none
    else none
  | _ => none

/-- Closes an element of raw text. -/
def closeRaw (text : List Char) : Lexeme :=
  match readTag text with
  | some (tag, behind) => { tokens := [.endTag tag.name], content := .markup, rest := behind }
  | none => { tokens := [], content := .markup, rest := [] }

/-- The word and the mark after it, if a `<` before them turns the hiding of a script on or
off. -/
def scriptWord? (text : List Char) : Option (List Char × List Char) :=
  if startsWithWord "script" text then
    match text.drop 6 with
    | c :: rest => if endsTagName c then some (text.take 6 ++ [c], rest) else none
    | [] => none
  else none

/-- Reads a `<` of a script. -/
def scriptAngle (state : ScriptState) (rest : List Char) : Lexeme :=
  let plainAngle (state : ScriptState) : Lexeme :=
    { tokens := [.char '<'], content := .script state, rest }
  let word (before found behind : List Char) (state : ScriptState) : Lexeme :=
    { tokens := (before ++ found).map .char, content := .script state, rest := behind }
  match state with
  | .plain =>
    match endTagOf? "script" rest with
    | some text => closeRaw text
    | none =>
      match rest with
      | '!' :: '-' :: '-' :: behind => word ['<'] ['!', '-', '-'] behind (.hidden 2)
      | _ => plainAngle .plain
  | .hidden _ =>
    match endTagOf? "script" rest with
    | some text => closeRaw text
    | none =>
      match scriptWord? rest with
      | some (found, behind) => word ['<'] found behind (.nested 0)
      | none => plainAngle (.hidden 0)
  | .nested _ =>
    match rest with
    | '/' :: more =>
      match scriptWord? more with
      | some (found, behind) => word ['<', '/'] found behind (.hidden 0)
      | none => plainAngle (.nested 0)
    | _ => plainAngle (.nested 0)

/-- The state of a script after a character other than `<`. -/
def ScriptState.after (state : ScriptState) (c : Char) : ScriptState :=
  let dashes (count : Nat) : Nat := if c == '-' then min 2 (count + 1) else 0
  match state with
  | .plain => .plain
  | .hidden count => if c == '>' && count == 2 then .plain else .hidden (dashes count)
  | .nested count => if c == '>' && count == 2 then .plain else .nested (dashes count)

/-- Reads the next tokens of a text. `allowsSection` says whether the element that is open
allows a section of plain characters. -/
def nextLexeme (content : Content) (allowsSection : Bool) (c : Char) (rest : List Char) :
    Lexeme :=
  match content with
  | .markup =>
    if c == '<' then markupAfterAngle allowsSection rest
    else if c == '&' then ampersand .markup rest
    else { tokens := [tokenOfChar c], content, rest }
  | .escapable element =>
    if c == '&' then ampersand content rest
    else
      match if c == '<' then endTagOf? element rest else none with
      | some text => closeRaw text
      | none => { tokens := [.char (shown c)], content, rest }
  | .raw element =>
    match if c == '<' then endTagOf? element rest else none with
    | some text => closeRaw text
    | none => { tokens := [.char (shown c)], content, rest }
  | .script state =>
    if c == '<' then scriptAngle state rest
    else { tokens := [.char (shown c)], content := .script (state.after c), rest }
  | .plain => { tokens := [.char (shown c)], content, rest }

end ClassroomClient.Html
