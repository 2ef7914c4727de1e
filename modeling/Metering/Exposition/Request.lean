import Metering.Http.Head
import Metering.Text.Utf8

/-!
# Requests to the scrape server

A request has a method and a target. The target is a path with a query, or a whole URL, or the name
of another machine, or a star. A request that is none of these is refused before it is looked at.
-/

namespace Metering.Exposition

open Metering.Http
open Metering.Text

/-! ## Paths and queries -/

/-- A character that a path may hold. -/
def isPathChar (c : Char) : Bool :=
  ' ' < c && c != '\x7f' && !(['#', '<', '>', '?', '\x60'].contains c)

/-- A character that a query may hold. -/
def isQueryChar (c : Char) : Bool :=
  ' ' < c && c != '\x7f' && !(['"', '#', '<', '>'].contains c)

/-- The path at the beginning of a text. Behind it there may be a query and a fragment. -/
def pathOf? (s : List Char) : Option (List Char) :=
  let path := s.takeWhile isPathChar
  match s.drop path.length with
  | [] => some path
  | '#' :: _ => some path
  | '?' :: rest =>
    match rest.dropWhile isQueryChar with
    | [] => some path
    | '#' :: _ => some path
    | _ => none
  | _ => none

/-! ## Names of machines -/

/-- A character that the name of a machine, its port or its user may hold. -/
def isAuthorityChar (c : Char) : Bool :=
  c.isAlphanum ||
    ['!', '$', '%', '&', '\'', '(', ')', '*', '+', ',', '-', '.', ':', ';', '=', '@', '[', ']', '_',
      '~'].contains c

/-- What has been seen of a name: colons, brackets and a percent sign in its last part. -/
structure Glimpse where
  colons : Nat := 0
  opened : Bool := false
  closed : Bool := false
  percent : Bool := false
  /-- Whether the last character was an at sign. -/
  atSign : Bool := false

/-- What has been seen after one more character, unless it is out of place. -/
def Glimpse.next (g : Glimpse) (c : Char) : Option Glimpse :=
  let g := { g with atSign := false }
  match c with
  | ':' => if g.colons < 8 then some { g with colons := g.colons + 1 } else none
  | '[' => if g.percent || g.opened then none else some { g with opened := true }
  | ']' =>
    if !g.opened || g.closed then none
    else some { g with closed := true, colons := 0, percent := false }
  | '@' => some { g with atSign := true, colons := 0, percent := false }
  | '%' => some { g with percent := true }
  | c => if isAuthorityChar c then some g else none

/-- Whether a text is the name of a machine, with a port and a user if need be. -/
def isAuthority (s : List Char) : Bool :=
  match s.foldlM Glimpse.next {} with
  | none => false
  | some g => g.opened == g.closed && g.colons ≤ 1 && !g.atSign && !g.percent

/-! ## Targets -/

/-- The longest name of a scheme. -/
def schemeLimit : Nat := 64

/-- What is behind a scheme with its colon and two slashes, if a text begins with one. -/
def behindScheme? (s : List Char) : Option (List Char) :=
  let scheme := s.takeWhile fun c => c.isAlphanum || c == '+' || c == '-' || c == '.'
  match s.drop scheme.length with
  | ':' :: '/' :: '/' :: rest => if scheme.length ≤ schemeLimit then some rest else none
  | _ => none

/--
The path of a target. It is empty for the name of a machine, and a slash for a URL without one.
-/
def targetPath? (target : List Char) : Option (List Char) :=
  match target with
  | '/' :: _ => pathOf? target
  | ['*'] => some target
  | _ =>
    match behindScheme? target with
    | none => if !target.isEmpty && isAuthority target then some [] else none
    | some rest =>
      let machine := rest.takeWhile fun c => c != '/' && c != '?' && c != '#'
      if machine.isEmpty || !isAuthority machine then none
      else (pathOf? (rest.drop machine.length)).map fun path => if path.isEmpty then ['/'] else path

/-- The longest target, in bytes. -/
def targetLimit : Nat := 65534

/-- A request that can be looked at. -/
structure Request where
  method : String
  path : String
  deriving DecidableEq, Repr

/-- Why a request is refused. -/
inductive Refusal where
  | malformed
  | targetTooLong
  deriving DecidableEq, Repr

/-- The method and the target of a request, if what holds them is the head of one. -/
def split? (s : List Char) : Option (List Char × List Char) := do
  let s := skipLines s
  let method := s.takeWhile isTokenChar
  let rest := s.drop method.length
  let target := (rest.drop 1).takeWhile fun c => ' ' < c && c != '\x7f'
  let behind := rest.drop (1 + target.length)
  guard (!method.isEmpty && rest.head? == some ' ' && !target.isEmpty && behind.head? == some ' ')
  let (_, behind) ← version? (behind.drop 1)
  let ([], headers) ← line? behind | none
  let _ ← headers? headerLimit headers
  return (method, target)

def Request.read (s : List Char) : Except Refusal Request := do
  let some (method, target) := split? s | throw .malformed
  if targetLimit < utf8Size target then throw .targetTooLong
  let some path := targetPath? target | throw .malformed
  return { method := String.ofList method, path := String.ofList path }

/-- The head of the request with a method and a target. -/
def requestText (method target : String) : List Char :=
  method.toList ++ ' ' :: target.toList ++ " HTTP/1.1\r\n\r\n".toList

end Metering.Exposition
