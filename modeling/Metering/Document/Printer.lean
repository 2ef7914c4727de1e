import Metering.Document.Json
import Metering.Number.Shortest

/-!
# Writing JSON

Documents to be written, and their compact text: no blanks, members in the order given, and in
texts only the escapes that the format demands.
-/

namespace Metering.Document

/-- A document to be written. -/
inductive Value where
  | null
  | bool (value : Bool)
  | integer (value : Int)
  | text (content : String)
  | list (items : List Value)
  | members (entries : List (String × Value))

namespace Json

/-- The text of a control character: a short escape if there is one, else its number. -/
def escapeControl (c : Char) : List Char :=
  match c with
  | '\x08' => ['\\', 'b']
  | '\t' => ['\\', 't']
  | '\n' => ['\\', 'n']
  | '\x0c' => ['\\', 'f']
  | '\r' => ['\\', 'r']
  | c => ['\\', 'u', '0', '0', Nat.digitChar (c.toNat / 16), Nat.digitChar (c.toNat % 16)]

/-- How a character stands in a text. -/
def escapeChar (c : Char) : List Char :=
  if c = '"' then ['\\', '"']
  else if c = '\\' then ['\\', '\\']
  else if c.toNat < 0x20 then escapeControl c
  else [c]

/-- A text between quotes. -/
def textLiteral (s : String) : List Char :=
  '"' :: s.toList.flatMap escapeChar ++ ['"']

mutual

/-- The text of a document. -/
def print : Value → List Char
  | .null => ['n', 'u', 'l', 'l']
  | .bool true => ['t', 'r', 'u', 'e']
  | .bool false => ['f', 'a', 'l', 's', 'e']
  | .integer n => Number.intText n
  | .text s => textLiteral s
  | .list [] => ['[', ']']
  | .list (item :: items) => '[' :: print item ++ printItems items
  | .members [] => ['{', '}']
  | .members ((key, value) :: entries) =>
    '{' :: textLiteral key ++ ':' :: print value ++ printEntries entries

/-- The items behind the first one, and the closing bracket. -/
def printItems : List Value → List Char
  | [] => [']']
  | item :: items => ',' :: print item ++ printItems items

/-- The entries behind the first one, and the closing bracket. -/
def printEntries : List (String × Value) → List Char
  | [] => ['}']
  | (key, value) :: entries =>
    ',' :: textLiteral key ++ ':' :: print value ++ printEntries entries

end

/-- The compact text of a document. -/
def encode (v : Value) : String :=
  String.ofList (print v)

end Json

end Metering.Document
