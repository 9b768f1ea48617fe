/-
# Character references

A character of a text may be named, or numbered in decimal or hexadecimal digits. `reference?`
reads what follows the ampersand. Where nothing follows that names a character the ampersand
stands for itself.
-/

import ClassroomClient.Html.NamedCharacters
import ClassroomClient.Html.Token

namespace ClassroomClient.Html

/-- What the numbers from 128 to 159 stand for by an old custom, where it gives them a
character. -/
def customCharacters : List (Nat × Nat) :=
  [(0x80, 0x20AC), (0x82, 0x201A), (0x83, 0x0192), (0x84, 0x201E), (0x85, 0x2026),
   (0x86, 0x2020), (0x87, 0x2021), (0x88, 0x02C6), (0x89, 0x2030), (0x8A, 0x0160),
   (0x8B, 0x2039), (0x8C, 0x0152), (0x8E, 0x017D), (0x91, 0x2018), (0x92, 0x2019),
   (0x93, 0x201C), (0x94, 0x201D), (0x95, 0x2022), (0x96, 0x2013), (0x97, 0x2014),
   (0x98, 0x02DC), (0x99, 0x2122), (0x9A, 0x0161), (0x9B, 0x203A), (0x9C, 0x0153),
   (0x9E, 0x017E), (0x9F, 0x0178)]

/-- The character with a number. Zero, halves of pairs and numbers past the last character
cannot be shown. -/
def numberedCharacter (code : Nat) : Char :=
  if code == 0 || (0xD800 ≤ code && code ≤ 0xDFFF) || 0x10FFFF < code then replacement
  else Char.ofNat ((customCharacters.lookup code).getD code)

/-- Reads the digits of a number and the semicolon that may end it. -/
def numbered? (base : Nat) (isDigit : Char → Bool) (text : List Char) :
    Option (List Char × List Char) :=
  let digits := text.takeWhile isDigit
  let rest := text.dropWhile isDigit
  if digits.isEmpty then none
  else
    let code := digits.foldl (fun value c => value * base + (Text.hexDigit? c).getD 0) 0
    some ([numberedCharacter code], match rest with
      | ';' :: behind => behind
      | _ => rest)

/-- Tries the first `size` characters as a name, then fewer. In an attribute an old name
without its semicolon is no name when a letter, a digit or an equals sign follows. -/
def named? (inAttribute : Bool) (text : List Char) : Nat → Option (List Char × List Char)
  | 0 => none
  | size + 1 =>
    let written := text.take (size + 1)
    let rest := text.drop (size + 1)
    let closed := written.getLast? == some ';'
    let name := String.ofList (if closed then written.dropLast else written)
    if written.length == size + 1 && (closed || oldNames.contains name) then
      match namedCharacters[name]? with
      | none => named? inAttribute text size
      | some characters =>
        let goesOn := match rest with
          | c :: _ => c == '=' || c.isAlphanum
          | [] => false
        if inAttribute && !closed && goesOn then none else some (characters, rest)
    else
      named? inAttribute text size

/-- Reads a reference after its ampersand: the characters it stands for and the text behind
it. -/
def reference? (inAttribute : Bool) : List Char → Option (List Char × List Char)
  | '#' :: 'x' :: rest => numbered? 16 (fun c => (Text.hexDigit? c).isSome) rest
  | '#' :: 'X' :: rest => numbered? 16 (fun c => (Text.hexDigit? c).isSome) rest
  | '#' :: rest => numbered? 10 Char.isDigit rest
  | c :: rest =>
    if c.isAlphanum then named? inAttribute (c :: rest) longestName else none
  | [] => none

end ClassroomClient.Html
