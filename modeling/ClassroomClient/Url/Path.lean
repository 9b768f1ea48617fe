/-
# Paths

A path is read segment by segment. A segment of one dot stays out, and one of two dots takes the
segment before it along, unless that is a drive letter. Dots may be percent-encoded.
-/

import ClassroomClient.Url.Basic

namespace ClassroomClient.Url

/-- Whether a character ends the path. -/
def endsPath (c : Char) : Bool := c == '?' || c == '#'

/-- Splits a text without a query and a fragment at its slashes. -/
def splitSegments (special : Bool) (text : List Char) : List (List Char) :=
  text.splitOnP fun c => c == '/' || (special && c == '\\')

/-- The spelling of a segment in which encoded dots are plain. -/
def plainDots : List Char → List Char
  | '%' :: '2' :: 'e' :: rest => '.' :: plainDots rest
  | '%' :: '2' :: 'E' :: rest => '.' :: plainDots rest
  | c :: rest => c :: plainDots rest
  | [] => []

/-- Whether a segment names the place where it stands. -/
def isSingleDot (segment : List Char) : Bool := plainDots segment == ['.']

/-- Whether a segment names the place above. -/
def isDoubleDot (segment : List Char) : Bool := plainDots segment == ['.', '.']

/-- Whether a text is a letter with a colon or a bar. -/
def isDriveLetter (text : List Char) : Bool :=
  match text with
  | [letter, mark] => letter.isAlpha && (mark == ':' || mark == '|')
  | _ => false

/-- Whether a segment holds its place against two dots behind it. -/
def staysOnAscent (segment : List Char) : Bool :=
  match segment with
  | letter :: mark :: rest =>
    letter.isAlpha && (mark == ':' || mark == '|') && (rest.isEmpty || rest.head? == some '\\')
  | _ => false

/-- The path above. `above` holds the segments, the last one first. -/
def ascend (above : List (List Char)) : List (List Char) :=
  match above with
  | [] => []
  | last :: rest => if staysOnAscent last then above else rest

/-- A segment as it stands in a path. The drive letter that begins a file path has a colon. -/
def normalSegment (kind : SchemeKind) (isFirst : Bool) (segment : List Char) : List Char :=
  let encoded := encode EncodeSet.path segment
  match kind, encoded with
  | .file, [letter, mark] =>
    if isFirst && isDriveLetter [letter, mark] then [letter, ':'] else encoded
  | _, _ => encoded

/-- Adds segments to a path. `above` holds the segments of the path so far, the last one
first. -/
def addSegments (kind : SchemeKind) (above : List (List Char)) :
    List (List Char) → List (List Char)
  | [] => above.reverse
  | [last] =>
    if isDoubleDot last then (([] : List Char) :: ascend above).reverse
    else if isSingleDot last then (([] : List Char) :: above).reverse
    else (normalSegment kind above.isEmpty last :: above).reverse
  | segment :: rest =>
    if isDoubleDot segment then addSegments kind (ascend above) rest
    else if isSingleDot segment then addSegments kind above rest
    else addSegments kind (normalSegment kind above.isEmpty segment :: above) rest

/-- The segments of a file path, of which a drive letter in front is one by itself. -/
def splitDrive (segments : List (List Char)) : List (List Char) :=
  match segments with
  | (letter :: ':' :: c :: more) :: rest =>
    if letter.isAlpha then [letter, ':'] :: (c :: more) :: rest else segments
  | _ => segments

/-- Reads a path that begins below `above`, up to a query or a fragment. Returns it with the
text behind it. -/
def readPath (kind : SchemeKind) (above : List (List Char)) (text : List Char) :
    UrlPath × List Char :=
  let path := text.takeWhile fun c => !endsPath c
  let written := splitSegments kind.isSpecial path
  let segments := addSegments kind above (if kind == .file then splitDrive written else written)
  let segments := match kind with
    | .file =>
      match segments.dropWhile List.isEmpty with
      | [] => [[]]
      | kept => kept
    | _ => segments
  (.segments segments, text.drop path.length)

end ClassroomClient.Url
