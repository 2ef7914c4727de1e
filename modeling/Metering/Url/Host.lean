import Metering.Url.Domain
import Metering.Url.Percent

/-!
# Hosts

The host of a URL: a domain, an address of 32 bits or an address of 128 bits. A domain whose last
part looks like a number has to be an address.
-/

namespace Metering

namespace Url

open Metering.Text

/-- Why a text is not a URL. -/
inductive Invalid where
  | emptyHost
  | domain
  | domainCharacter
  | port
  | address4
  | address6
  | noScheme
  deriving DecidableEq, Repr

/-- The wording of what is wrong with a URL. -/
def Invalid.message : Invalid → String
  | emptyHost => "empty host"
  | domain => "invalid international domain name"
  | domainCharacter => "invalid domain character"
  | port => "invalid port number"
  | address4 => "invalid IPv4 address"
  | address6 => "invalid IPv6 address"
  | noScheme => "relative URL without a base"

inductive Host where
  | domain (name : List Char)
  | address4 (value : Nat)
  /-- Eight numbers of 16 bits. -/
  | address6 (pieces : List Nat)
  deriving DecidableEq, Repr

/-! ## Addresses of 32 bits -/

/-- The number that digits write to a base. -/
def numberTo? (base : Nat) (digits : List Char) : Option Nat :=
  digits.foldlM (fun n c => do
    let d ← hexValue? c
    guard (d < base)
    return base * n + d) 0

/--
A part of an address: a decimal number, an octal one behind a zero, or a hexadecimal one behind
0x.
-/
def number4? : List Char → Option Nat
  | [] => none
  | '0' :: 'x' :: digits => numberTo? 16 digits
  | '0' :: 'X' :: digits => numberTo? 16 digits
  | '0' :: d :: digits => numberTo? 8 (d :: digits)
  | digits => numberTo? 10 digits

/-- The parts of a domain. A dot at its end is not followed by another part. -/
def domainParts (domain : List Char) : List (List Char) :=
  let parts := splitOn (· == '.') domain
  if 1 < parts.length ∧ parts.getLast? = some [] then parts.dropLast else parts

/-- Whether the last part of a domain is meant as a number. -/
def endsInNumber (domain : List Char) : Bool :=
  match (domainParts domain).getLast? with
  | none => false
  | some last => (!last.isEmpty && last.all isDigit) || (number4? last).isSome

/-- An address of up to four numbers. The last number fills the bytes that the others leave. -/
def fill4? (numbers : List Nat) : Option Nat := do
  guard (numbers.length ≤ 4)
  let last ← numbers.getLast?
  let others := numbers.dropLast
  guard (others.all (· < 256) && last < Nat.pow 256 (4 - others.length))
  let high := others.foldl (fun n b => 256 * n + b) 0
  return high * Nat.pow 256 (4 - others.length) + last

/-- The address that a domain writes. -/
def address4? (domain : List Char) : Option Nat := do
  fill4? (← (domainParts domain).mapM number4?)

/-- Four numbers with dots between them. -/
def address4Text (value : Nat) : List Char :=
  let byte (n : Nat) : List Char := Nat.toDigits 10 (value / Nat.pow 256 n % 256)
  byte 3 ++ '.' :: byte 2 ++ '.' :: byte 1 ++ '.' :: byte 0

/-! ## Addresses of 128 bits -/

/-- A number below 256 without leading zeros. -/
def byte? (digits : List Char) : Option Nat := do
  guard (digits.head? != some '0' || digits.length == 1)
  guard (!digits.isEmpty)
  let n ← numberTo? 10 digits
  guard (n < 256)
  return n

/-- The two pieces of four numbers with dots between them. -/
def tail4? (s : List Char) : Option (List Nat) := do
  match ← (splitOn (· == '.') s).mapM byte? with
  | [a, b, c, d] => return [256 * a + b, 256 * c + d]
  | _ => none

/--
Pieces of up to four digits with colons between them. The last two pieces may be written as four
numbers.
-/
def pieces? : List (List Char) → Option (List Nat)
  | [] => some []
  | [last] =>
    if last.contains '.' then tail4? last
    else do
      guard (!last.isEmpty && last.length ≤ 4)
      return [← numberTo? 16 last]
  | piece :: rest => do
    guard (!piece.isEmpty && piece.length ≤ 4)
    return (← numberTo? 16 piece) :: (← pieces? rest)

/-- The parts before and after the first pair of colons, if there is one. -/
def splitGap : List Char → List Char × Option (List Char)
  | [] => ([], none)
  | ':' :: ':' :: rest => ([], some rest)
  | c :: rest => ((splitGap rest).1.cons c, (splitGap rest).2)

/-- Pieces with colons between them, possibly none. -/
def pieceList? (s : List Char) : Option (List Nat) :=
  if s.isEmpty then some [] else pieces? (splitOn (· == ':') s)

/-- An address of eight pieces. A pair of colons stands for one or more zeros. -/
def address6? (s : List Char) : Option (List Nat) := do
  match splitGap s with
  | (all, none) =>
    let pieces ← pieceList? all
    guard (pieces.length = 8)
    return pieces
  | (before, some after) =>
    guard (!before.contains '.')
    let before ← pieceList? before
    let after ← pieceList? after
    guard (before.length + after.length < 8)
    return before ++ List.replicate (8 - before.length - after.length) 0 ++ after

/-- The number of zeros at the beginning. -/
def leadingZeros (pieces : List Nat) : Nat :=
  (pieces.takeWhile (· == 0)).length

/-- The place and length of the first longest run of zeros. -/
def longestGap : Nat → List Nat → Nat × Nat
  | _, [] => (0, 0)
  | place, piece :: rest =>
    let here := leadingZeros (piece :: rest)
    let later := longestGap (place + 1) rest
    if later.2 ≤ here then (place, here) else later

/-- Pieces in hexadecimal with colons between them. -/
def pieceText (pieces : List Nat) : List Char :=
  [':'].intercalate (pieces.map (Nat.toDigits 16))

/-- The pieces of an address, the first longest run of two or more zeros left out. -/
def address6Text (pieces : List Nat) : List Char :=
  let (place, size) := longestGap 0 pieces
  if size < 2 then pieceText pieces
  else pieceText (pieces.take place) ++ ':' :: ':' :: pieceText (pieces.drop (place + size))

/-- A character that a host must not hold even where no domain is meant. -/
def isForbiddenAnywhere (c : Char) : Bool :=
  ['\x00', '\t', '\n', '\r', ' ', '#', '/', ':', '<', '>', '?', '@', '[', '\\', ']', '^',
    '|'].contains c

namespace Host

/-- The address between brackets, if the text begins with one. -/
def bracketed? : List Char → Option (Except Invalid Host)
  | '[' :: rest => some <|
    if rest.getLast? = some ']' then
      match address6? rest.dropLast with
      | some pieces => .ok (address6 pieces)
      | none => .error .address6
    else .error .address6
  | _ => none

/-- The host of a URL with a special scheme. -/
def ofText (s : List Char) : Except Invalid Host :=
  match bracketed? s with
  | some host => host
  | none => do
    let some decoded := ofUtf8? (percentDecode s) | throw .domain
    let some name := Domain.toAscii? decoded | throw .domain
    if name.isEmpty then throw .emptyHost
    if endsInNumber name then
      let some value := address4? name | throw .address4
      return address4 value
    return domain name

/-- The host of a URL with any other scheme. -/
def ofRawText (s : List Char) : Except Invalid Host :=
  match bracketed? s with
  | some host => host
  | none =>
    if s.any isForbiddenAnywhere then .error .domainCharacter
    else .ok (domain (percentEncode isControl s))

/-- How a host is written. -/
def text : Host → List Char
  | domain name => name
  | address4 value => address4Text value
  | address6 pieces => '[' :: address6Text pieces ++ [']']

end Host

end Url

end Metering
