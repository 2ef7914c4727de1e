import Metering.Text.Basic

/-!
# Heads of messages

What the messages of HTTP have in common: a first line, lines with headers, and an empty line behind
them. A line ends with a line feed, before which there may be a carriage return.
-/

namespace Metering.Http

open Metering.Text

/-- A character of a token. Methods and the names of headers are tokens. -/
def isTokenChar (c : Char) : Bool :=
  c.isAlphanum ||
    ['!', '#', '$', '%', '&', '\'', '*', '+', '-', '.', '^', '_', '\x60', '|', '~'].contains c

/-- A character that a line may hold. -/
def isLineChar (c : Char) : Bool :=
  c == '\t' || (' ' ≤ c && c != '\x7f')

/-- The text without the ends of lines before it. -/
def skipLines : List Char → List Char
  | '\n' :: rest => skipLines rest
  | '\r' :: '\n' :: rest => skipLines rest
  | s => s

/-- A line and what follows its end. -/
def line? : List Char → Option (List Char × List Char)
  | [] => none
  | '\n' :: rest => some ([], rest)
  | '\r' :: '\n' :: rest => some ([], rest)
  | c :: rest => do
    guard (isLineChar c)
    let (line, rest) ← line? rest
    return (c :: line, rest)

/-- The text without the blanks around it. -/
def trimBlanks (s : List Char) : List Char :=
  let blank (c : Char) : Bool := c == ' ' || c == '\t'
  ((s.dropWhile blank).reverse.dropWhile blank).reverse

/-- A header. Its name is in small letters. -/
structure Header where
  name : String
  value : List Char
  deriving DecidableEq, Repr

def Header.ofLine? (line : List Char) : Option Header :=
  let name := line.takeWhile isTokenChar
  match line.drop name.length with
  | ':' :: value =>
    if name.isEmpty then none
    else some ⟨String.ofList (name.map Char.toLower), trimBlanks value⟩
  | _ => none

/-- The headers up to the empty line behind them, at most `limit`, and what follows that line. -/
def headers? (limit : Nat) (s : List Char) : Option (List Header × List Char) := do
  match ← line? s with
  | ([], rest) => return ([], rest)
  | (line, rest) =>
    let header ← Header.ofLine? line
    match limit with
    | 0 => none
    | limit + 1 =>
      let (headers, rest) ← headers? limit rest
      return (header :: headers, rest)

/-- The most headers of a message. -/
def headerLimit : Nat := 100

/-- The minor number of the version that begins a text, and what follows it. -/
def version? : List Char → Option (Nat × List Char)
  | 'H' :: 'T' :: 'T' :: 'P' :: '/' :: '1' :: '.' :: '0' :: rest => some (0, rest)
  | 'H' :: 'T' :: 'T' :: 'P' :: '/' :: '1' :: '.' :: '1' :: rest => some (1, rest)
  | _ => none

end Metering.Http
