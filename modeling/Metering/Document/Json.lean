import Metering.Document
import Metering.Text.Basic
import Metering.Text.Utf8

/-!
# Reading JSON

The reader of documents in JSON. It never fails: the tree that it returns holds what is wrong with
the text. Once something cannot be read, nothing behind it is looked at.
-/

namespace Metering.Document.Json

open Metering.Text

/-- The blanks of the format. -/
def isBlank (c : Char) : Bool :=
  c == ' ' || c == '\n' || c == '\t' || c == '\r'

/-- The text without its leading blanks. -/
def skipBlanks (s : List Char) : List Char :=
  s.dropWhile isBlank

/-! ## Texts -/

/-- A piece of a text between quotes: a character, or a 16-bit unit given by its number. -/
inductive Piece where
  | char (c : Char)
  | unit (n : Nat)

/-- The character for the letter of a short escape. -/
def shortEscape? : Char → Option Char
  | '"' => some '"'
  | '\\' => some '\\'
  | '/' => some '/'
  | 'b' => some '\x08'
  | 'f' => some '\x0c'
  | 'n' => some '\n'
  | 'r' => some '\r'
  | 't' => some '\t'
  | _ => none

/-- The number that four hexadecimal digits write. -/
def hexUnit? (a b c d : Char) : Option Nat := do
  let a ← hexValue? a
  let b ← hexValue? b
  let c ← hexValue? c
  let d ← hexValue? d
  return ((a * 16 + b) * 16 + c) * 16 + d

/--
A text up to its closing quote: its pieces, what is wrong with it if there is no such quote or a
piece is not legal, and what follows.
-/
structure Scanned where
  pieces : List Piece
  fault : Option Misreading
  rest : List Char

/-- A text that goes wrong here. -/
def Scanned.cut (why : Misreading) : Scanned :=
  ⟨[], some why, []⟩

/-- The text with one more piece in front. -/
def Scanned.cons (piece : Piece) (s : Scanned) : Scanned :=
  { s with pieces := piece :: s.pieces }

/--
Scans a text behind its opening quote. The number of a unit takes four bytes, whatever they are.
-/
def scan : List Char → Scanned
  | [] => .cut .incomplete
  | '"' :: rest => ⟨[], none, rest⟩
  | '\\' :: 'u' :: a :: b :: c :: d :: rest =>
    match hexUnit? a b c d with
    | some n => (scan rest).cons (.unit n)
    | none => .cut .malformed
  | '\\' :: 'u' :: rest => .cut (if utf8Size rest < 4 then .incomplete else .malformed)
  | '\\' :: letter :: rest =>
    match shortEscape? letter with
    | some c => (scan rest).cons (.char c)
    | none => .cut .malformed
  | '\\' :: [] => .cut .incomplete
  | c :: rest => if c.toNat < 0x20 then .cut .malformed else (scan rest).cons (.char c)

/-- The first unit of a surrogate pair. -/
def isHighSurrogate (n : Nat) : Bool :=
  0xD800 ≤ n && n < 0xDC00

/-- The second unit of a surrogate pair. -/
def isLowSurrogate (n : Nat) : Bool :=
  0xDC00 ≤ n && n < 0xE000

/-- The character of a surrogate pair. -/
def pair (high low : Nat) : Char :=
  Char.ofNat (0x10000 + (high - 0xD800) * 0x400 + (low - 0xDC00))

/--
The characters of the pieces, surrogates joined in pairs. A lone surrogate is malformed, unless
the text goes wrong before its partner could follow.
-/
def assemble (fault : Option Misreading) : List Piece → Except Misreading (List Char)
  | [] =>
    match fault with
    | none => .ok []
    | some why => .error why
  | .char c :: rest => return c :: (← assemble fault rest)
  | .unit n :: rest =>
    if isLowSurrogate n then .error .malformed
    else if isHighSurrogate n then
      match rest with
      | .unit m :: rest =>
        if isLowSurrogate m then return pair n m :: (← assemble fault rest)
        else .error .malformed
      | [] => .error (fault.getD .malformed)
      | .char _ :: _ => .error .malformed
    else return Char.ofNat n :: (← assemble fault rest)

/-- The text that was scanned. -/
def Scanned.content (s : Scanned) : Except Misreading String :=
  (assemble s.fault s.pieces).map String.ofList

/-! ## Numbers -/

/--
The number that digits write behind the digits of `kept`, as far as 64 bits hold it, and how many
digits are left.
-/
def gather (kept : Nat) : List Char → Nat × Nat
  | [] => (kept, 0)
  | c :: rest =>
    let next := ofDigits [c] + 10 * kept
    if next < UInt64.size then gather next rest else (kept, rest.length + 1)

/--
A number that is not whole: `kept * 10 ^ exponent`. It is computed from the doubles nearest to both
factors, and neither the power nor the product may be too large for a double.
-/
def real (kept : Nat) (exponent : Int) : Node :=
  .real (kept == 0 || exponent < 0 || (exponent ≤ 308 &&
    Number.nearest kept * Number.nearest (Nat.pow 10 exponent.toNat) < Number.tooLarge))

/-- An integer, unless it is a negative zero or does not fit 64 bits. -/
def whole (negative : Bool) (digits : List Char) : Node :=
  match gather 0 digits with
  | (kept, 0) =>
    if !negative then .integer kept
    else if kept ≠ 0 ∧ kept ≤ 0x8000000000000000 then .integer (-kept)
    else real kept 0
  | (kept, left) => real kept left

/-- A number that ends where a digit has to follow. -/
def noDigit : List Char → Node
  | [] => .broken .incomplete .malformed
  | _ => .broken .malformed .malformed

/-- The exponent of a number, the digits before it being given with their scale. -/
def exponent (kept : Nat) (scale : Int) : List Char → Node × List Char
  | s =>
    let (negative, s) : Bool × List Char :=
      match s with
      | '-' :: s => (true, s)
      | '+' :: s => (false, s)
      | s => (false, s)
    let shift : Int := ofDigits (s.takeWhile isDigit)
    let rest := s.dropWhile isDigit
    if (s.takeWhile isDigit).isEmpty then (noDigit rest, [])
    else (real kept (scale + if negative then -shift else shift), rest)

/--
What follows the digits before the point of a number. Digits that do not fit 64 bits are passed
over. Before the point each of them stands for a power of ten.
-/
def afterWhole (negative : Bool) (digits : List Char) : List Char → Node × List Char
  | '.' :: s =>
    let places := s.takeWhile isDigit
    let rest := s.dropWhile isDigit
    if places.isEmpty then (noDigit rest, [])
    else
      let (kept, left) := gather 0 digits
      let (kept, passed) := gather kept places
      let scale : Int := left - (places.length - passed : Nat)
      match rest with
      | 'e' :: rest => exponent kept scale rest
      | 'E' :: rest => exponent kept scale rest
      | rest => (real kept scale, rest)
  | 'e' :: s => exponent (gather 0 digits).1 (gather 0 digits).2 s
  | 'E' :: s => exponent (gather 0 digits).1 (gather 0 digits).2 s
  | s => (whole negative digits, s)

/-- A number behind its sign. A zero is followed by no other digit. -/
def number (negative : Bool) (s : List Char) : Node × List Char :=
  let digits := s.takeWhile isDigit
  let rest := s.dropWhile isDigit
  match digits with
  | [] => (noDigit rest, [])
  | '0' :: _ :: _ => (.broken .malformed .malformed, [])
  | digits => afterWhole negative digits rest

/-! ## Values -/

/-- A word that stands for a value, its first letter being read already. -/
def word (meaning : Node) : List Char → List Char → Node × List Char
  | [], rest => (meaning, rest)
  | _ :: _, [] => (.broken .incomplete .incomplete, [])
  | c :: cs, d :: rest => if c = d then word meaning cs rest else (.broken .malformed .malformed, [])

mutual

/-- The value at the beginning of a text, and what follows it. -/
def value : Nat → List Char → Node × List Char
  | 0, _ => (.missing, [])
  | fuel + 1, s =>
    match skipBlanks s with
    | [] => (.missing, [])
    | '[' :: rest =>
      match skipBlanks rest with
      | [] => (.list [] (.noSeparator .incomplete), [])
      | ']' :: rest => (.list [] .closed, rest)
      | rest =>
        let (items, ending, rest) := items fuel rest
        (.list items ending, rest)
    | '{' :: rest =>
      match skipBlanks rest with
      | [] => (.members [] (.noSeparator .incomplete), [])
      | '}' :: rest => (.members [] .closed, rest)
      | '"' :: rest =>
        let (entries, ending, rest) := entries fuel rest
        (.members entries ending, rest)
      | rest => (.members [] (.strayKey (value fuel rest).1.unsuited), [])
    | '"' :: rest =>
      let scanned := scan rest
      (.text scanned.content scanned.fault, scanned.rest)
    | '-' :: rest => number true rest
    | 'n' :: rest => word .null ['u', 'l', 'l'] rest
    | 't' :: rest => word (.bool true) ['r', 'u', 'e'] rest
    | 'f' :: rest => word (.bool false) ['a', 'l', 's', 'e'] rest
    | c :: rest => if isDigit c then number false (c :: rest) else (.broken .malformed .malformed, [])

/-- The items of a list from the first one on, how they end, and what follows the list. -/
def items : Nat → List Char → List Node × Ending × List Char
  | 0, _ => ([], .noSeparator .incomplete, [])
  | fuel + 1, s =>
    let (item, rest) := value fuel s
    match skipBlanks rest with
    | [] => ([item], .noSeparator .incomplete, [])
    | ']' :: rest => ([item], .closed, rest)
    | ',' :: rest =>
      match skipBlanks rest with
      | [] => ([item], .danglingSeparator .incomplete, [])
      | ']' :: _ => ([item], .danglingSeparator .malformed, [])
      | rest =>
        let (more, ending, rest) := items fuel rest
        (item :: more, ending, rest)
    | _ => ([item], .noSeparator .malformed, [])

/--
The entries of an object from behind the quote of the first key on, how they end, and what follows
the object.
-/
def entries : Nat → List Char → List (Except Misreading String × Node) × Ending × List Char
  | 0, _ => ([], .noSeparator .incomplete, [])
  | fuel + 1, s =>
    let scanned := scan s
    let key := scanned.content
    match scanned.fault, skipBlanks scanned.rest with
    | some why, _ => ([(key, .broken why why)], .noSeparator why, [])
    | none, ':' :: rest =>
      let (value, rest) := value fuel rest
      match skipBlanks rest with
      | [] => ([(key, value)], .noSeparator .incomplete, [])
      | '}' :: rest => ([(key, value)], .closed, rest)
      | ',' :: rest =>
        match skipBlanks rest with
        | '"' :: rest =>
          let (more, ending, rest) := entries fuel rest
          ((key, value) :: more, ending, rest)
        | [] => ([(key, value)], .danglingSeparator .incomplete, [])
        | _ => ([(key, value)], .danglingSeparator .malformed, [])
      | _ => ([(key, value)], .noSeparator .malformed, [])
    | none, [] => ([(key, .missing)], .noSeparator .incomplete, [])
    | none, _ => ([(key, .broken .malformed .malformed)], .noSeparator .malformed, [])

end

/-- The value that a text holds, and whether nothing but blanks follows it. -/
def parse (text : String) : Node × Bool :=
  let s := text.toList
  let (root, rest) := value (2 * s.length + 2) s
  (root, (skipBlanks rest).isEmpty)

/--
What a text holds, made sense of by a reader of values. Anything behind the value is malformed.
-/
def decode {α : Type} (read : Node → Except Misreading α) (text : String) :
    Except Misreading α := do
  let (root, alone) := parse text
  let content ← read root
  if alone then return content else throw .malformed

end Metering.Document.Json
