import Metering.Document.Toml.Lexeme
import Metering.Document.Toml.Table
import Metering.Document.Record

/-!
# Reading TOML

The reader of documents in TOML. A text either is a document, and then its tree is in good order
throughout, or is none.
-/

namespace Metering.Document.Toml

/-- A dotted key: the path and the last part. -/
def splitKey? (parts : List String) : Option (List String × String) :=
  parts.getLast?.map fun last => (parts.dropLast, last)

mutual

/-- A value, `depth` brackets being open around it. -/
def value? (depth : Nat) : Nat → List Char → Option (Node × List Char)
  | 0, _ => none
  | fuel + 1, s =>
    match s with
    | '"' :: _ => (text? s).map fun (t, rest) => (.ofString t, rest)
    | '\'' :: _ => (text? s).map fun (t, rest) => (.ofString t, rest)
    | '[' :: rest => do
      guard (depth + 1 < tooDeep)
      let (items, rest) ← items? (depth + 1) fuel rest
      return (.list items .closed, rest)
    | '{' :: rest => do
      guard (depth + 1 < tooDeep)
      let (pairs, rest) ←
        match skipBlanks rest with
        | '}' :: rest => some ([], rest)
        | rest => pairs? (depth + 1) fuel rest
      let table ← Table.given.fill? pairs
      return (table.toNode, rest)
    | 't' :: 'r' :: 'u' :: 'e' :: rest => some (.bool true, rest)
    | 'f' :: 'a' :: 'l' :: 's' :: 'e' :: rest => some (.bool false, rest)
    | s =>
      match moment? s with
      | some found => some found
      | none => number? s

/-- The items of a list up to its closing bracket. -/
def items? (depth : Nat) : Nat → List Char → Option (List Node × List Char)
  | 0, _ => none
  | fuel + 1, s =>
    match skipLines s.length s with
    | ']' :: rest => some ([], rest)
    | s => do
      let (item, rest) ← value? depth fuel s
      match skipLines rest.length rest with
      | ',' :: rest =>
        let (items, rest) ← items? depth fuel rest
        return (item :: items, rest)
      | ']' :: rest => return ([item], rest)
      | _ => none

/-- The entries of an inline table up to its closing bracket, of which there is at least one. -/
def pairs? (depth : Nat) :
    Nat → List Char → Option (List (List String × String × Node) × List Char)
  | 0, _ => none
  | fuel + 1, s => do
    let (parts, rest) ← key? s
    let (path, key) ← splitKey? parts
    let (node, rest) ← value? depth fuel (skipBlanks (← expect? '=' rest))
    match skipBlanks rest with
    | ',' :: rest =>
      let (pairs, rest) ← pairs? depth fuel rest
      return ((path, key, node) :: pairs, rest)
    | '}' :: rest => return ([(path, key, node)], rest)
    | _ => none

end

/-- The name of a table, behind the opening brackets of its header. The header fills its line. -/
def header? (brackets : List Char) (s : List Char) : Option ((List String × String) × List Char) := do
  let (parts, rest) ← key? s
  let name ← splitKey? parts
  guard (rest.take brackets.length = brackets)
  let rest ← endOfLine? (rest.drop brackets.length)
  return (name, rest)

/-- A key and its value, which fill a line. -/
def assignment? (s : List Char) : Option ((List String × String × Node) × List Char) := do
  let (parts, rest) ← key? s
  let (path, key) ← splitKey? parts
  let rest := skipBlanks (← expect? '=' rest)
  let (node, rest) ← value? 0 (2 * rest.length + 2) rest
  return ((path, key, node), ← endOfLine? rest)

/-- The assignments up to the next header, and what follows them. -/
def assignments? : Nat → List Char → Option (List (List String × String × Node) × List Char)
  | 0, _ => none
  | fuel + 1, s =>
    match skipBlanks s with
    | [] => some ([], [])
    | '[' :: rest => some ([], '[' :: rest)
    | '#' :: rest => do assignments? fuel (← endOfLine? ('#' :: rest))
    | s =>
      match newline? s with
      | some rest => assignments? fuel rest
      | none => do
        let (pair, rest) ← assignment? s
        let (pairs, rest) ← assignments? fuel rest
        return (pair :: pairs, rest)

/-- The tree of tables, filled by the sections of a text from a header on. -/
def sections? : Nat → List Char → Table → Option Table
  | 0, _, _ => none
  | fuel + 1, s, root =>
    match s with
    | [] => some root
    | '[' :: '[' :: rest => do
      let ((path, key), rest) ← header? [']', ']'] rest
      let (pairs, rest) ← assignments? (rest.length + 1) rest
      sections? fuel rest (← root.giveRow? path key pairs)
    | '[' :: rest => do
      let ((path, key), rest) ← header? [']'] rest
      let (pairs, rest) ← assignments? (rest.length + 1) rest
      sections? fuel rest (← root.giveTable? path key pairs)
    | _ => none

/-- The document that a text holds. A byte order mark at its beginning is no part of it. -/
def parse? (text : String) : Option Node := do
  let s :=
    match text.toList with
    | '\uFEFF' :: rest => rest
    | s => s
  let (pairs, rest) ← assignments? (s.length + 1) s
  let root ← Table.given.fill? pairs
  let root ← sections? (rest.length + 1) rest root
  return root.toNode

end Metering.Document.Toml
