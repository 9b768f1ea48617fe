/-
# Percent encoding

Characters that may not stand in a part of a URL are written as the percent signs and
hexadecimal digits of their UTF-8 bytes. Which plain characters these are depends on the part;
all others than plain characters are always encoded.
-/

import ClassroomClient.Text.RangeTable
import ClassroomClient.Text.Utf8

namespace ClassroomClient.Url

/-- A set of plain characters that are encoded, besides the control characters. -/
abbrev EncodeSet := List Char

namespace EncodeSet

/-- What is encoded in parts without a structure of their own. -/
def controls : EncodeSet := []

/-- What is encoded in a fragment. -/
def fragment : EncodeSet := [' ', '"', '<', '>', '\x60']

/-- What is encoded in a path. -/
def path : EncodeSet := fragment ++ ['#', '?', '\x7b', '\x7d']

/-- What is encoded in a user name or a password. -/
def userInfo : EncodeSet := path ++ ['/', ':', ';', '=', '@', '[', '\\', ']', '^', '|']

/-- What is encoded in a query. -/
def query : EncodeSet := [' ', '"', '#', '<', '>']

/-- What is encoded in a query of one of the well-known schemes. -/
def wellKnownQuery : EncodeSet := query ++ ['\x27']

end EncodeSet

/-- Two uppercase hexadecimal digits behind a percent sign. -/
def percentByte (byte : UInt8) : List Char :=
  let digits := [byte.toNat / 16, byte.toNat % 16].map fun digit =>
    if digit < 10 then Char.ofNat ('0'.toNat + digit) else Char.ofNat ('A'.toNat + digit - 10)
  '%' :: digits

/-- Encodes one character. -/
def encodeChar (set : EncodeSet) (c : Char) : List Char :=
  if c.toNat < 0x20 || 0x7F ≤ c.toNat || set.contains c then
    (String.utf8EncodeChar c).flatMap percentByte
  else
    [c]

/-- Encodes a text. -/
def encode (set : EncodeSet) (text : List Char) : List Char :=
  text.flatMap (encodeChar set)

/-- The bytes of a text in which every percent sign with two hexadecimal digits stands for a
byte. -/
def decodeBytes : List Char → List UInt8
  | [] => []
  | '%' :: first :: second :: rest =>
    match Text.hexDigit? first, Text.hexDigit? second with
    | some high, some low => UInt8.ofNat (high * 16 + low) :: decodeBytes rest
    | _, _ => 0x25 :: decodeBytes (first :: second :: rest)
  | c :: rest => String.utf8EncodeChar c ++ decodeBytes rest

/-- Decodes a text, unless its bytes are no UTF-8. -/
def decode? (text : List Char) : Option (List Char) :=
  (String.fromUTF8? (ByteArray.mk (decodeBytes text).toArray)).map String.toList

end ClassroomClient.Url
