/-
# Tokens of a selector

A selector is read in tokens: names, strings, numbers, brackets and single characters. A
backslash writes a character by its number or takes the next character as it is. A string that
the text breaks off ends with the text, and one that a line end breaks off is none.
-/

import ClassroomClient.Text.RangeTable

namespace ClassroomClient.Selector

/-- A token of a selector. -/
inductive Token
  | name (text : String)
  | function (name : String)
  | hash (text : String) (isName : Bool)
  | string (text : String)
  | badString
  | number (value : Option Int) (signed : Bool) (unit : String)
  | space
  | delimiter (c : Char)
  | matcher (c : Char)
  | opening (c : Char)
  | closing (c : Char)
  | other
  deriving DecidableEq, Repr, Inhabited

/-- Ends a line. -/
def isLineEnd (c : Char) : Bool := c == '\n' || c == '\r' || c == '\x0c'

/-- Blank characters of a selector. -/
def isSpace (c : Char) : Bool := c == ' ' || c == '\t' || isLineEnd c

/-- Stands for a character that cannot be written. -/
def replacement : Char := '\ufffd'

/-- Whether a character can stand inside a name. -/
def isNameChar (c : Char) : Bool :=
  c.isAlphanum || c == '_' || c == '-' || c == '\x00' || 128 ≤ c.toNat

/-- Whether a character can start a name. -/
def isNameStart (c : Char) : Bool :=
  c.isAlpha || c == '_' || c == '\x00' || 128 ≤ c.toNat

/-- Whether what follows a backslash is a character written by it. -/
def isEscaped : List Char → Bool
  | c :: _ => !isLineEnd c
  | [] => true

/-- Whether a text starts with a name. -/
def startsName : List Char → Bool
  | '-' :: '\\' :: rest => isEscaped rest
  | '-' :: c :: _ => isNameStart c || c == '-'
  | '\\' :: rest => isEscaped rest
  | c :: _ => isNameStart c
  | [] => false

/-- Leaves out one line end. -/
def dropLineEnd : List Char → List Char
  | '\r' :: '\n' :: rest => rest
  | _ :: rest => rest
  | [] => []

/-- The character with a number, if it can be written. -/
def writtenChar (code : Nat) : Char :=
  if code == 0 || (0xD800 ≤ code && code ≤ 0xDFFF) || 0x10FFFF < code then replacement
  else Char.ofNat code

/-- Reads the character that a backslash writes. -/
def readEscaped (text : List Char) : Char × List Char :=
  match text with
  | [] => (replacement, [])
  | c :: rest =>
    if (Text.hexDigit? c).isSome then
      let digits := (text.take 6).takeWhile fun c => (Text.hexDigit? c).isSome
      let behind := text.drop digits.length
      let behind := match behind with
        | c :: _ => if isSpace c then dropLineEnd behind else behind
        | [] => []
      (writtenChar (Text.hexValue digits), behind)
    else (if c == '\x00' then replacement else c, rest)

/-- Reads the characters of a name. The fuel bounds their number. -/
def readName : Nat → List Char → List Char × List Char
  | 0, text => ([], text)
  | _, [] => ([], [])
  | fuel + 1, c :: rest =>
    if c == '\\' && isEscaped rest then
      let (escaped, behind) := readEscaped rest
      let (name, behind) := readName fuel behind
      (escaped :: name, behind)
    else if isNameChar c then
      let (name, behind) := readName fuel rest
      ((if c == '\x00' then replacement else c) :: name, behind)
    else ([], c :: rest)

/-- Reads a string after its quote. There is none when a line ends in it. The fuel bounds the
number of characters. -/
def readString (quote : Char) : Nat → List Char → Option (List Char) × List Char
  | 0, text => (none, text)
  | _, [] => (some [], [])
  | fuel + 1, c :: rest =>
    if c == quote then (some [], rest)
    else if isLineEnd c then (none, c :: rest)
    else if c == '\\' then
      match rest with
      | [] => (some [], [])
      | next :: _ =>
        if isLineEnd next then readString quote fuel (dropLineEnd rest)
        else
          let (escaped, behind) := readEscaped rest
          let (text, behind) := readString quote fuel behind
          (text.map (escaped :: ·), behind)
    else
      let (text, behind) := readString quote fuel rest
      (text.map ((if c == '\x00' then replacement else c) :: ·), behind)

/-- Whether a text starts with a number. -/
def startsNumber : List Char → Bool
  | '+' :: '.' :: c :: _ | '-' :: '.' :: c :: _ => c.isDigit
  | '+' :: c :: _ | '-' :: c :: _ | '.' :: c :: _ => c.isDigit
  | c :: _ => c.isDigit
  | [] => false

/-- The largest number that is kept. -/
def largestNumber : Nat := 2147483647

/-- Reads a number with its unit. Only whole numbers have a value. -/
def readNumber (text : List Char) : Token × List Char :=
  let signed := text.head? == some '+' || text.head? == some '-'
  let negative := text.head? == some '-'
  let unsigned := if signed then text.tail else text
  let digits := unsigned.takeWhile Char.isDigit
  let behind := unsigned.dropWhile Char.isDigit
  let (fraction, behind) := match behind with
    | '.' :: c :: rest =>
      if c.isDigit then (true, (c :: rest).dropWhile Char.isDigit) else (false, behind)
    | _ => (false, behind)
  let (scaled, behind) := match behind with
    | 'e' :: c :: rest | 'E' :: c :: rest =>
      let unsigned := if c == '+' || c == '-' then rest else c :: rest
      match unsigned with
      | d :: _ => if d.isDigit then (true, unsigned.dropWhile Char.isDigit) else (false, behind)
      | [] => (false, behind)
    | _ => (false, behind)
  let size := digits.foldl (fun value c => value * 10 + (c.toNat - '0'.toNat)) 0
  let value : Int :=
    if negative then -(min size (largestNumber + 1) : Nat) else (min size largestNumber : Nat)
  let whole := if fraction || scaled then none else some value
  match behind with
  | '%' :: rest => (.number none signed "%", rest)
  | _ =>
    if startsName behind then
      let (unit, rest) := readName behind.length behind
      (.number whole signed (String.ofList unit), rest)
    else (.number whole signed "", behind)

/-- Leaves out a comment after its start. -/
def dropComment : List Char → List Char
  | '*' :: '/' :: rest => rest
  | _ :: rest => dropComment rest
  | [] => []

/-- Reads a name, which is a function before a parenthesis. -/
def readNameToken (text : List Char) : Token × List Char :=
  match readName text.length text with
  | (name, '(' :: rest) => (.function (String.ofList name), rest)
  | (name, rest) => (.name (String.ofList name), rest)

/-- Reads one token. -/
def readToken (c : Char) (rest : List Char) : Token × List Char :=
  let text := c :: rest
  if isSpace c then (.space, rest.dropWhile isSpace)
  else if c == '"' || c == '\x27' then
    match readString c (rest.length + 1) rest with
    | (some value, behind) => (.string (String.ofList value), behind)
    | (none, behind) => (.badString, behind)
  else if startsNumber text then readNumber text
  else if c == '#' then
    if startsName rest then
      let (name, behind) := readName rest.length rest
      (.hash (String.ofList name) true, behind)
    else if (rest.head?.map fun next => next.isDigit || next == '-').getD false then
      let (name, behind) := readName rest.length rest
      (.hash (String.ofList name) false, behind)
    else (.delimiter c, rest)
  else if ['$', '*', '^', '|', '~'].contains c && rest.head? == some '=' then
    (.matcher c, rest.tail)
  else if c == '(' || c == '[' || c == '\x7b' then (.opening c, rest)
  else if c == ')' || c == ']' || c == '\x7d' then (.closing c, rest)
  else if c == '-' && rest.take 2 == ['-', '>'] then (.other, rest.drop 2)
  else if c == '<' && rest.take 3 == ['!', '-', '-'] then (.other, rest.drop 3)
  else if c == '@' && startsName rest then (.other, (readName rest.length rest).2)
  else if startsName text then readNameToken text
  else (.delimiter c, rest)

/-- Reads all tokens, leaving out comments. The fuel bounds their number. -/
def readTokens : Nat → List Char → List Token
  | 0, _ => []
  | _, [] => []
  | fuel + 1, '/' :: '*' :: rest => readTokens fuel (dropComment rest)
  | fuel + 1, c :: rest =>
    let (token, behind) := readToken c rest
    token :: readTokens fuel behind

/-- The tokens of a text. -/
def tokensOf (text : String) : List Token := readTokens text.toList.length text.toList

end ClassroomClient.Selector
