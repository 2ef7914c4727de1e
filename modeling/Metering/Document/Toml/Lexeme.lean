import Metering.Document
import Metering.Text.Basic

/-!
# Words of TOML

Blanks, comments, texts, keys, numbers, dates and times. Each reader takes what it reads from the
beginning of a text and gives the rest, or refuses.
-/

namespace Metering.Document.Toml

open Metering.Text (hexValue? isDigit ofDigits)
open Metering.Number (inRange)

/-! ## Blanks and comments -/

/-- The text without the blanks at its beginning, which do not end a line. -/
def skipBlanks (s : List Char) : List Char :=
  s.dropWhile fun c => c == ' ' || c == '\t'

/-- A character that may stand in comments and texts. Of the control characters only the tab may. -/
def isPrintable (c : Char) : Bool :=
  c == '\t' || (' ' ≤ c && c != '\x7f')

/-- What follows the end of the line that begins the text. -/
def newline? : List Char → Option (List Char)
  | '\n' :: rest => some rest
  | '\r' :: '\n' :: rest => some rest
  | _ => none

/-- What follows a comment, if there is one. -/
def skipComment : List Char → List Char
  | '#' :: rest => rest.dropWhile isPrintable
  | s => s

/-- What follows the end of a line on which nothing but blanks and a comment is left. -/
def endOfLine? (s : List Char) : Option (List Char) :=
  match skipComment (skipBlanks s) with
  | [] => some []
  | rest => newline? rest

/--
The text without the blanks, line ends and comments at its beginning. A comment has to end with
its line.
-/
def skipLines : Nat → List Char → List Char
  | 0, s => s
  | fuel + 1, s =>
    let rest := skipBlanks s
    match rest with
    | '#' :: _ =>
      match newline? (skipComment rest) with
      | some rest => skipLines fuel rest
      | none => rest
    | rest =>
      match newline? rest with
      | some rest => skipLines fuel rest
      | none => rest

/-! ## Texts -/

/-- The number that hexadecimal digits write. -/
def ofHexDigits? (digits : List Char) : Option Nat :=
  digits.foldlM (fun n c => (hexValue? c).map (16 * n + ·)) 0

/-- The character of a code point. Surrogates have none. -/
def ofCodePoint? (n : Nat) : Option Char :=
  if n < 0xD800 ∨ (0xDFFF < n ∧ n < 0x110000) then some (Char.ofNat n) else none

/-- The character given by a number of hexadecimal digits. -/
def codePoint? (size : Nat) (s : List Char) : Option (Char × List Char) := do
  let digits := s.take size
  guard (digits.length = size)
  let c ← ofCodePoint? (← ofHexDigits? digits)
  return (c, s.drop size)

/-- The character of an escape, behind its backslash. -/
def escape? : List Char → Option (Char × List Char)
  | 'b' :: rest => some ('\x08', rest)
  | 'f' :: rest => some ('\x0c', rest)
  | 'n' :: rest => some ('\n', rest)
  | 'r' :: rest => some ('\r', rest)
  | 't' :: rest => some ('\t', rest)
  | '\\' :: rest => some ('\\', rest)
  | '"' :: rest => some ('"', rest)
  | 'u' :: rest => codePoint? 4 rest
  | 'U' :: rest => codePoint? 8 rest
  | _ => none

/-- A text on one line, behind its opening quote. -/
def line? (quote : Char) : Nat → List Char → Option (List Char × List Char)
  | 0, _ => none
  | _, [] => none
  | fuel + 1, c :: rest => do
    if c = quote then return ([], rest)
    let (c, rest) ←
      if c = '\\' ∧ quote = '"' then escape? rest
      else if isPrintable c then some (c, rest) else none
    let (cs, rest) ← line? quote fuel rest
    return (c :: cs, rest)

/--
What follows a backslash at the end of a line: the line end and all blanks and line ends behind it
are not part of the text.
-/
def joinLines? (fuel : Nat) (s : List Char) : Option (List Char) := do
  let rest ← newline? (skipBlanks s)
  return skipBlank fuel rest
where
  /-- Skips blanks and line ends, not comments. -/
  skipBlank : Nat → List Char → List Char
    | 0, s => s
    | fuel + 1, s =>
      match newline? (skipBlanks s) with
      | some rest => skipBlank fuel rest
      | none => skipBlanks s

/--
A text over several lines, behind its opening quotes. Three quotes end it, and up to two more
before them belong to it. Every line end reads as one newline.
-/
def lines? (quote : Char) : Nat → List Char → Option (List Char × List Char)
  | 0, _ => none
  | fuel + 1, s =>
    let quotes := (s.takeWhile (· == quote)).length
    if 3 ≤ quotes then
      let inside := min (quotes - 3) 2
      some (List.replicate inside quote, s.drop (inside + 3))
    else
      match newline? s, s with
      | some rest, _ => (lines? quote fuel rest).map fun (cs, rest) => ('\n' :: cs, rest)
      | none, [] => none
      | none, c :: rest =>
        if c = '\\' ∧ quote = '"' then
          match joinLines? fuel rest with
          | some rest => lines? quote fuel rest
          | none => do
            let (c, rest) ← escape? rest
            let (cs, rest) ← lines? quote fuel rest
            return (c :: cs, rest)
        else if isPrintable c then
          (lines? quote fuel rest).map fun (cs, rest) => (c :: cs, rest)
        else none

/-- A text over several lines. A line end directly behind the opening quotes is not part of it. -/
def block? (quote : Char) (s : List Char) : Option (List Char × List Char) :=
  lines? quote (s.length + 1) ((newline? s).getD s)

/-- A text of any form. -/
def text? (s : List Char) : Option (String × List Char) := do
  let (cs, rest) ←
    match s with
    | '"' :: '"' :: '"' :: rest => block? '"' rest
    | '\'' :: '\'' :: '\'' :: rest => block? '\'' rest
    | '"' :: rest => line? '"' s.length rest
    | '\'' :: rest => line? '\'' s.length rest
    | _ => none
  return (String.ofList cs, rest)

/-! ## Keys -/

/-- A character of a bare key. -/
def isBare (c : Char) : Bool :=
  c.isAlphanum || c == '_' || c == '-'

/-- A key without dots, bare or quoted. -/
def simpleKey? (s : List Char) : Option (String × List Char) := do
  match s with
  | '"' :: rest =>
    let (cs, rest) ← line? '"' s.length rest
    return (String.ofList cs, rest)
  | '\'' :: rest =>
    let (cs, rest) ← line? '\'' s.length rest
    return (String.ofList cs, rest)
  | s =>
    let bare := s.takeWhile isBare
    guard (!bare.isEmpty)
    return (String.ofList bare, s.dropWhile isBare)

/-- The parts of a key joined by dots, blanks around each being skipped. -/
def parts? : Nat → List Char → Option (List String × List Char)
  | 0, _ => none
  | fuel + 1, s => do
    let (part, rest) ← simpleKey? (skipBlanks s)
    match skipBlanks rest with
    | '.' :: rest =>
      let (parts, rest) ← parts? fuel rest
      return (part :: parts, rest)
    | rest => return ([part], rest)

/-- The number of levels that may be open at a time is below this one. -/
def tooDeep : Nat := 80

/-- A key. Its parts are so many levels. -/
def key? (s : List Char) : Option (List String × List Char) := do
  let (parts, rest) ← parts? (s.length + 1) s
  guard (parts.length < tooDeep)
  return (parts, rest)

/-! ## Numbers -/

/-- Digits of a class, single underscores allowed between them. -/
def grouped? (isDigit : Char → Bool) : List Char → Option (List Char × List Char)
  | [] => none
  | c :: rest =>
    if !isDigit c then none
    else
      match rest with
      | '_' :: more => do
        let (digits, rest) ← grouped? isDigit more
        return (c :: digits, rest)
      | rest =>
        match rest with
        | d :: _ =>
          if isDigit d then do
            let (digits, rest) ← grouped? isDigit rest
            return (c :: digits, rest)
          else some ([c], rest)
        | [] => some ([c], [])

/-- The digits of a decimal number before its point. A leading zero stands alone. -/
def whole? : List Char → Option (List Char × List Char)
  | '0' :: rest => some (['0'], rest)
  | s => grouped? isDigit s

/-- A sign, true for minus. -/
def sign : List Char → Bool × List Char
  | '-' :: rest => (true, rest)
  | '+' :: rest => (false, rest)
  | s => (false, s)

/-- The exponent of a number behind its letter. -/
def exponent? (s : List Char) : Option (Int × List Char) := do
  let (negative, s) := sign s
  let (digits, rest) ← grouped? isDigit s
  let n : Int := ofDigits digits
  return (if negative then -n else n, rest)

/-- A number with a point or an exponent. One that exceeds all doubles is refused. -/
def real? (negative : Bool) (digits : List Char) (s : List Char) : Option (Node × List Char) := do
  let (places, rest) ←
    match s with
    | '.' :: rest => grouped? isDigit rest
    | rest => some ([], rest)
  let (shift, rest) ←
    match rest with
    | 'e' :: rest => exponent? rest
    | 'E' :: rest => exponent? rest
    | rest => some (0, rest)
  guard (negative || inRange (ofDigits (digits ++ places)) (shift - places.length))
  return (.real true, rest)

/-- An integer of 64 bits with its sign. -/
def integer? (n : Int) : Option Node :=
  if -0x8000000000000000 ≤ n ∧ n < 0x8000000000000000 then some (.integer n) else none

/-- An integer in another base than ten. -/
def based? (base : Nat) (s : List Char) : Option (Node × List Char) := do
  let (digits, rest) ← grouped? (fun c => (hexValue? c).any (· < base)) s
  let node ← integer? (digits.foldl (fun n c => base * n + (hexValue? c).getD 0) 0 : Nat)
  return (node, rest)

def number? (s : List Char) : Option (Node × List Char) :=
  match s with
  | '0' :: 'x' :: rest => based? 16 rest
  | '0' :: 'o' :: rest => based? 8 rest
  | '0' :: 'b' :: rest => based? 2 rest
  | s =>
    let (negative, s) := sign s
    match s with
    | 'i' :: 'n' :: 'f' :: rest => some (.real true, rest)
    | 'n' :: 'a' :: 'n' :: rest => some (.real true, rest)
    | s => do
      let (digits, rest) ← whole? s
      match rest with
      | '.' :: _ => real? negative digits rest
      | 'e' :: _ => real? negative digits rest
      | 'E' :: _ => real? negative digits rest
      | rest =>
        let n : Int := ofDigits digits
        let node ← integer? (if negative then -n else n)
        return (node, rest)

/-! ## Dates and times -/

/-- A number of a fixed size within bounds. -/
def digits? (size low high : Nat) (s : List Char) : Option (Nat × List Char) := do
  let digits := s.take size
  guard (digits.length = size && digits.all isDigit)
  let n := ofDigits digits
  guard (low ≤ n && n ≤ high)
  return (n, s.drop size)

/-- What follows a given character. -/
def expect? (c : Char) : List Char → Option (List Char)
  | d :: rest => if c = d then some rest else none
  | [] => none

/-- The number of days of a month. -/
def daysOf (year month : Nat) : Nat :=
  if month = 2 then
    if year % 4 = 0 ∧ (year % 100 ≠ 0 ∨ year % 400 = 0) then 29 else 28
  else if month ∈ [4, 6, 9, 11] then 30
  else 31

/-- What follows a date. -/
def date? (s : List Char) : Option (List Char) := do
  let (year, s) ← digits? 4 0 9999 s
  let (month, s) ← digits? 2 1 12 (← expect? '-' s)
  let (_, s) ← digits? 2 1 (daysOf year month) (← expect? '-' s)
  return s

/-- What follows a time of day. -/
def time? (s : List Char) : Option (List Char) := do
  let (_, s) ← digits? 2 0 23 s
  let (_, s) ← digits? 2 0 59 (← expect? ':' s)
  let (_, s) ← digits? 2 0 60 (← expect? ':' s)
  match s with
  | '.' :: rest =>
    guard (rest.head?.any isDigit)
    return rest.dropWhile isDigit
  | s => return s

/-- What follows the distance from universal time, if one is given. -/
def offset? : List Char → Option (List Char)
  | 'Z' :: rest => some rest
  | 'z' :: rest => some rest
  | '+' :: rest => clock? rest
  | '-' :: rest => clock? rest
  | s => some s
where
  /-- What follows hours and minutes. -/
  clock? (s : List Char) : Option (List Char) := do
    let (_, s) ← digits? 2 0 23 s
    let (_, s) ← digits? 2 0 59 (← expect? ':' s)
    return s

/-- What follows the letter or blank between a date and a time. -/
def timeMark? : List Char → Option (List Char)
  | 'T' :: rest => some rest
  | 't' :: rest => some rest
  | ' ' :: rest => some rest
  | _ => none

/-- A moment is an object with one key, which names no option. -/
def moment : Node :=
  .members [(.ok "$moment", .ofString "")] .closed

/-- A date, a time of day or both. -/
def moment? (s : List Char) : Option (Node × List Char) :=
  match date? s with
  | some rest =>
    match (timeMark? rest).bind time? with
    | some rest => (offset? rest).map fun rest => (moment, rest)
    | none => some (moment, rest)
  | none => (time? s).map fun rest => (moment, rest)

end Metering.Document.Toml
