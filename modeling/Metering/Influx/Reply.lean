import Metering.Http.Head
import Metering.Text.Basic

/-!
# Replies

What comes back for a request over HTTP. On its way a reply is a line with a status, lines with
headers, an empty line and a body. A status of 100 to 199 announces another reply behind it, apart
from 101, which ends the talk.
-/

namespace Metering.Influx

open Metering.Http
open Metering.Text

/-- What comes back for a request. -/
inductive Reply where
  | answered (status : UInt16) (body : List UInt8)
  /-- Nobody could be reached, the other side hung up, or what it sent is no reply. -/
  | lost
  deriving DecidableEq, Repr

/-- Whether a status reports success. -/
def isSuccess (status : UInt16) : Bool :=
  200 ≤ status && status < 300

/-- Whether a reply reports success. -/
def Reply.isSuccess : Reply → Bool
  | answered status _ => Influx.isSuccess status
  | lost => false

namespace Reply

/-! ## Heads

Bytes are read as the characters with their numbers.
-/

/-- What comes before the body of a reply. -/
structure Head where
  /-- The minor number of the version. -/
  minor : Nat
  status : Nat
  headers : List Header

/-- The status at the beginning of a text, and what follows it. -/
def status? : List Char → Option (Nat × List Char)
  | a :: b :: c :: rest => do
    guard ([a, b, c].all isDigit && a != '0')
    guard (rest.head?.any fun c => c == ' ' || c == '\r' || c == '\n')
    return (ofDigits [a, b, c], rest)
  | _ => none

/-- The head of a reply, and what follows it. -/
def head? (s : List Char) : Option (Head × List Char) := do
  let (minor, rest) ← version? (skipLines s)
  guard (rest.head? == some ' ')
  let (status, rest) ← status? (rest.drop 1)
  let (_, rest) ← line? rest
  let (headers, rest) ← headers? headerLimit rest
  return ({ minor, status, headers }, rest)

/-! ## Bodies -/

/-- A line that ends with a carriage return and a line feed, and what follows it. -/
def crossing? (s : List Char) : Option (List Char × List Char) :=
  let line := s.takeWhile fun c => c != '\r' && c != '\n'
  match s.drop line.length with
  | '\r' :: '\n' :: rest => some (line, rest)
  | _ => none

/-- The size on the first line of a chunk. Behind a semicolon there may be anything. -/
def chunkSize? (line : List Char) : Option Nat := do
  let digits := line.takeWhile fun c => (hexValue? c).isSome
  guard (!digits.isEmpty)
  guard ((trimBlanks (line.drop digits.length)).head?.all (· == ';'))
  return ofHexDigits digits

/-- Whether lines up to an empty one begin a text. -/
def endsInBlank : Nat → List Char → Bool
  | 0, _ => false
  | fuel + 1, s =>
    match crossing? s with
    | none => false
    | some (line, rest) => line.isEmpty || endsInBlank fuel rest

/-- A body in chunks, each behind its size. An empty one is the last. -/
def chunks? : Nat → List Char → Option (List Char)
  | 0, _ => none
  | fuel + 1, s => do
    let (line, rest) ← crossing? s
    let size ← chunkSize? line
    if size = 0 then
      guard (endsInBlank fuel rest)
      return []
    guard (size ≤ rest.length)
    match rest.drop size with
    | '\r' :: '\n' :: more => return rest.take size ++ (← chunks? fuel more)
    | _ => none

/-- The values of all headers of a name. -/
def Head.values (head : Head) (name : String) : List (List Char) :=
  (head.headers.filter (·.name = name)).map (·.value)

/-- The length of the body that the head gives, unless it gives several or none that is a number. -/
def Head.length? (head : Head) : Option Nat :=
  let lengths := (head.values "content-length").flatMap (splitOn (· == ','))
  match lengths.map trimBlanks with
  | [] => none
  | first :: others =>
    if !first.isEmpty && first.all isDigit && others.all (fun digits =>
        !digits.isEmpty && digits.all isDigit && ofDigits digits == ofDigits first) then
      some (ofDigits first)
    else none

/-- Whether the body comes in chunks. -/
def Head.isChunked (head : Head) : Bool :=
  ((head.values "transfer-encoding").getLast?.bind fun value =>
    (splitOn (· == ',') value).getLast?).any fun word =>
      (trimBlanks word).map Char.toLower == "chunked".toList

/-- The reply with a head. A body that breaks off counts as empty. -/
def ofHead (head : Head) (rest : List Char) : Reply :=
  let answer (body : List Char) : Reply :=
    .answered (.ofNat head.status) (body.map fun c => .ofNat c.toNat)
  if head.status = 204 ∨ head.status = 304 then answer []
  else if !(head.values "transfer-encoding").isEmpty then
    if head.minor = 0 then .lost
    else if head.isChunked then answer ((chunks? rest.length rest).getD [])
    else answer rest
  else if (head.values "content-length").isEmpty then answer rest
  else
    match head.length? with
    | none => .lost
    | some length => answer (if length ≤ rest.length then rest.take length else [])

/-- The reply that a text begins with, announcements aside. -/
def ofText : Nat → List Char → Reply
  | 0, _ => .lost
  | fuel + 1, s =>
    match head? s with
    | none => .lost
    | some (head, rest) =>
      if head.status = 101 then .answered 101 []
      else if head.status < 200 then ofText fuel rest
      else ofHead head rest

/--
What arrives of a reply with its status on the first line and its body behind it. A status has
three digits, and the body of an announcement has to be the reply that it announces.
-/
def delivered : Reply → Reply
  | .lost => .lost
  | .answered status body =>
    if status < 100 ∨ 999 < status then .lost
    else if status = 101 ∨ status = 204 ∨ status = 304 then .answered status []
    else if status < 200 then ofText body.length (body.map fun b => .ofNat b.toNat)
    else .answered status body

end Reply

end Metering.Influx
