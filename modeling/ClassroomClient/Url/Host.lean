/-
# Hosts

A host is a domain name, an IPv4 address or an IPv6 address. Addresses are read in all the
spellings that are in use and written in one.
-/

import ClassroomClient.Text.Decimal
import ClassroomClient.Url.Idna.Label
import ClassroomClient.Url.Percent

namespace ClassroomClient.Url

/-- Why a text is no URL. -/
inductive UrlError
  | emptyHost
  | invalidDomain
  | invalidPort
  | invalidIpv4
  | invalidIpv6
  | invalidDomainCharacter
  | relativeWithoutBase
  deriving DecidableEq, Repr, Inhabited

/-- The wording of a URL error. -/
def UrlError.message : UrlError → String
  | emptyHost => "empty host"
  | invalidDomain => "invalid international domain name"
  | invalidPort => "invalid port number"
  | invalidIpv4 => "invalid IPv4 address"
  | invalidIpv6 => "invalid IPv6 address"
  | invalidDomainCharacter => "invalid domain character"
  | relativeWithoutBase => "relative URL without a base"

/-- A host. An IPv6 address has eight pieces of sixteen bits. -/
inductive Host
  | domain (name : List Char)
  | ipv4 (address : Nat)
  | ipv6 (pieces : List Nat)
  deriving DecidableEq, Repr, Inhabited

/-! ### IPv4 -/

/-- A number of an IPv4 address. -/
inductive Ipv4Part
  | invalid
  | tooLarge
  | value (n : Nat)
  deriving DecidableEq, Repr

/-- Reads digits to a base as a number below 32 bits. -/
def readDigits (base : Nat) (digits : List Char) : Ipv4Part :=
  if digits.all fun c => (Text.hexDigit? c).any (· < base) then
    let n := digits.foldl (fun value c => value * base + (Text.hexDigit? c).getD 0) 0
    if n < Nat.pow 2 32 then .value n else .tooLarge
  else
    .invalid

/-- Reads one number of an IPv4 address: decimal, octal behind a zero, or hexadecimal behind
`0x`. -/
def readIpv4Part : List Char → Ipv4Part
  | [] => .invalid
  | ['0', 'x'] => .value 0
  | ['0', 'X'] => .value 0
  | '0' :: 'x' :: digits => readDigits 16 digits
  | '0' :: 'X' :: digits => readDigits 16 digits
  | ['0'] => .value 0
  | '0' :: digits => readDigits 8 digits
  | digits => readDigits 10 digits

/-- The labels of a name without an empty last one. -/
def ipv4Parts (name : List Char) : List (List Char) :=
  let parts := name.splitOn '.'
  match parts.getLast? with
  | some [] => parts.dropLast
  | _ => parts

/-- Whether a name is read as an IPv4 address because its last label is a number. -/
def endsInNumber (name : List Char) : Bool :=
  match (ipv4Parts name).getLast? with
  | none => false
  | some last =>
    (!last.isEmpty && last.all Char.isDigit) ||
      match readIpv4Part last with
      | .invalid => false
      | _ => true

/-- Reads an IPv4 address of one to four numbers. The last number fills the bytes that are
left. -/
def readIpv4 (name : List Char) : Except UrlError Nat :=
  let parts := (ipv4Parts name).map readIpv4Part
  let numbers := parts.filterMap fun part => match part with
    | .value n => some n
    | _ => none
  if 4 < parts.length || numbers.length != parts.length then
    .error .invalidIpv4
  else
    let front := numbers.dropLast
    let last := numbers.getLast?.getD 0
    if Nat.pow 256 (4 - front.length) ≤ last || front.any (255 < ·) then
      .error .invalidIpv4
    else
      .ok (front.zipIdx.foldl (fun address (n, place) => address + n * Nat.pow 256 (3 - place))
        last)

/-- The text of an IPv4 address. -/
def ipv4Text (address : Nat) : List Char :=
  List.intercalate ['.']
    ([address / Nat.pow 2 24, address / Nat.pow 2 16 % 256, address / Nat.pow 2 8 % 256,
      address % 256].map Text.decimal)

/-! ### IPv6 -/

/-- The pieces of an IPv6 address that are read so far, the last one first, and how many of them
stand before a gap. -/
structure Ipv6Pieces where
  pieces : List Nat
  gap? : Option Nat

/-- Reads one number of the IPv4 address inside an IPv6 address. -/
def readByte? (digits : List Char) : Option Nat :=
  match digits with
  | [] => none
  | ['0'] => some 0
  | '0' :: _ => none
  | _ =>
    if digits.all Char.isDigit && digits.length ≤ 3 then
      some (Nat.ofDigitChars 10 digits 0) |>.filter (· ≤ 255)
    else
      none

/-- Reads the IPv4 address at the end of an IPv6 address as two pieces. -/
def readEmbedded? (text : List Char) : Option (Nat × Nat) :=
  match (text.splitOn '.').map readByte? with
  | [some a, some b, some c, some d] => some (a * 256 + b, c * 256 + d)
  | _ => none

/-- Reads pieces up to the end of the text. The fuel bounds their number. -/
def readPieces : Nat → Ipv6Pieces → List Char → Option Ipv6Pieces
  | _, read, [] => some read
  | 0, _, _ => none
  | fuel + 1, read, text =>
    if read.pieces.length == 8 then
      none
    else
      match text with
      | ':' :: rest =>
        if read.gap?.isSome then none
        else
          readPieces fuel { pieces := 0 :: read.pieces, gap? := some (read.pieces.length + 1) } rest
      | _ =>
        let digits := (text.take 4).takeWhile fun c => (Text.hexDigit? c).isSome
        let rest := text.drop digits.length
        let grown := { read with pieces := Text.hexValue digits :: read.pieces }
        match rest with
        | [] => some grown
        | [':'] => none
        | ':' :: more => readPieces fuel grown more
        | '.' :: _ =>
          if digits.isEmpty || 6 < read.pieces.length then none
          else do
            let (high, low) ← readEmbedded? text
            return { read with pieces := low :: high :: read.pieces }
        | _ => none

/-- Reads an IPv6 address. A gap stands for as many zeros as are missing. -/
def readIpv6 (text : List Char) : Except UrlError Host :=
  let start : Option (Ipv6Pieces × List Char) := match text with
    | ':' :: ':' :: rest => some ({ pieces := [0], gap? := some 1 }, rest)
    | ':' :: _ => none
    | [] => none
    | [_] => none
    | _ => some ({ pieces := [], gap? := none }, text)
  let read := start.bind fun (read, rest) => readPieces 9 read rest
  match read with
  | none => .error .invalidIpv6
  | some read =>
    let pieces := read.pieces.reverse
    match read.gap? with
    | some gap =>
      .ok (.ipv6 (pieces.take gap ++ List.replicate (8 - pieces.length) 0 ++ pieces.drop gap))
    | none => if pieces.length == 8 then .ok (.ipv6 pieces) else .error .invalidIpv6

/-- The number of zeros in front. -/
def leadingZeros (pieces : List Nat) : Nat :=
  (pieces.takeWhile (· == 0)).length

/-- Where the first of the longest runs of zeros begins, and its length. -/
def longestZeros : Nat → List Nat → Nat × Nat
  | _, [] => (0, 0)
  | place, piece :: rest =>
    let here := leadingZeros (piece :: rest)
    let later := longestZeros (place + 1) rest
    if later.2 ≤ here then (place, here) else later

/-- Pieces with colons between them. -/
def piecesText (pieces : List Nat) : List Char :=
  List.intercalate [':'] (pieces.map (Nat.toDigits 16))

/-- The text of an IPv6 address. The longest run of at least two zeros is left out. -/
def ipv6Text (pieces : List Nat) : List Char :=
  let (place, count) := longestZeros 0 pieces
  if count < 2 then piecesText pieces
  else piecesText (pieces.take place) ++ [':', ':'] ++ piecesText (pieces.drop (place + count))

/-! ### Reading hosts -/

/-- The plain characters that may not stand in a domain name, besides control characters. -/
def forbiddenInDomain : List Char :=
  [' ', '%', '#', '/', ':', '<', '>', '?', '@', '[', '\\', ']', '^', '|', '\x7f']

/-- The characters that may not stand in a host of a scheme that is not well known. -/
def forbiddenInName : List Char :=
  ['\x00', '\t', '\n', '\r', ' ', '#', '/', ':', '<', '>', '?', '@', '[', '\\', ']', '^', '|']

/-- Reads the address between brackets. -/
def readBracketed (text : List Char) : Except UrlError Host :=
  match text.reverse with
  | ']' :: reversed => readIpv6 (reversed.reverse.drop 1)
  | _ => .error .invalidIpv6

/-- Reads the host of a well-known scheme. -/
def readHost (text : List Char) : Except UrlError Host :=
  match text with
  | '[' :: _ => readBracketed text
  | _ =>
    match (decode? text).bind Idna.toAscii? with
    | none => .error .invalidDomain
    | some name =>
      if name.any fun c => c.toNat < 0x20 || forbiddenInDomain.contains c then
        .error .invalidDomain
      else if name.isEmpty then
        .error .emptyHost
      else if endsInNumber name then
        (readIpv4 name).map .ipv4
      else
        .ok (.domain name)

/-- Reads the host of any other scheme. -/
def readPlainHost (text : List Char) : Except UrlError Host :=
  match text with
  | '[' :: _ => readBracketed text
  | _ =>
    if text.any forbiddenInName.contains then .error .invalidDomainCharacter
    else .ok (.domain (encode EncodeSet.controls text))

/-- The text of a host. -/
def Host.text : Host → List Char
  | domain name => name
  | ipv4 address => ipv4Text address
  | ipv6 pieces => '[' :: (ipv6Text pieces ++ [']'])

end ClassroomClient.Url
