import Metering.Text.Composition
import Metering.Text.Direction
import Metering.Text.Joining
import Metering.Text.Ranges
import Metering.Url.Domain.Mapping
import Metering.Url.Punycode

/-!
# Domains

A domain is a row of labels with dots between them. In the form that goes over the network every
label is ASCII: one that is not is written in Punycode behind the sign `xn--`. Before that, each
character is replaced by what it is taken for and the whole is composed, so that spellings which
look alike name the same domain. Labels that could be misread are not allowed.
-/

namespace Metering.Url.Domain

open Metering.Text

/-! ## Characters -/

/-- A character that a domain must not hold. -/
def isForbidden (c : Char) : Bool :=
  c.toNat ≤ 0x20 || c == '\x7f' ||
    ['%', '#', '/', ':', '<', '>', '?', '@', '[', '\\', ']', '^', '|'].contains c

/-- A character beyond ASCII. -/
def isBeyond (c : Char) : Bool :=
  0x80 ≤ c.toNat

/-- What a domain holds in place of a character, if the character is allowed. -/
def mapped? (c : Char) : Option (List Char) :=
  if isBeyond c then target? c else some [c.toLower]

/-- A character that stands for itself. -/
def isStable (c : Char) : Bool :=
  mapped? c == some [c] && !isForbidden c

/-! ## Joiners -/

/-- A mark that takes the vowel from the letter before it. It is recognised by its class. -/
def isVirama (c : Char) : Bool :=
  combiningClass c == 9

/-- Whether the nearest character that joining does not pass over has a property. -/
def nearest (joins : Char → Bool) (s : List Char) : Bool :=
  ((s.dropWhile Joining.transparent.contains).head?).any joins

/--
Whether the joiners of a label have an effect there, `before` being what comes before in reverse. A
joiner acts behind a virama, and one that keeps letters apart acts also between letters that would
join.
-/
def joinersFit (before : List Char) : List Char → Bool
  | [] => true
  | c :: rest =>
    let fits :=
      if c == '\u200c' then
        before.head?.any isVirama ||
          (nearest Joining.joinsNext before && nearest Joining.joinsPrevious rest)
      else if c == '\u200d' then before.head?.any isVirama
      else true
    fits && joinersFit (c :: before) rest

/-! ## Labels -/

/-- A part of a domain: the text that it stands for and its form in ASCII. -/
structure Label where
  text : List Char
  ascii : List Char
  deriving DecidableEq, Repr

/-- The most characters that a label beyond ASCII may have. -/
def maxText : Nat := 1000

/-- The most characters that may follow the sign of a label in Punycode. -/
def maxForm : Nat := 2000

/-- The sign of a label in Punycode. -/
def sign : List Char := ['x', 'n', '-', '-']

/-- Whether a text may be a label. -/
def isLabel (text : List Char) : Bool :=
  !text.head?.any isMark && joinersFit [] text && (text.all (!isBeyond ·) || text.length ≤ maxText)

/-- The text of a label in Punycode. It has to be one that is written so and not in another way. -/
def revealed? (form : List Char) : Option (List Char) := do
  guard (form.length ≤ maxForm && form.getLast?.any (· != '-'))
  let text ← Punycode.decode? form
  guard (text.all isStable && composed text == text)
  return text

/-- The label that a text without dots gives. -/
def label? (s : List Char) : Option Label := do
  if sign.isPrefixOf s then
    let text ← revealed? (s.drop 4)
    guard (isLabel text)
    return ⟨text, s⟩
  guard (isLabel s)
  return ⟨s, if s.all (!isBeyond ·) then s else sign ++ Punycode.encode s⟩

/-! ## Directions -/

/-- The directions of a text without those of the marks at its end. -/
def directions (text : List Char) : List WritingDirection :=
  ((text.map WritingDirection.of).reverse.dropWhile (· == .nonspacing)).reverse

/--
Whether a label keeps to one direction: the one of its first letter. Digits may end a label that
runs from right to left, but they have to be of one kind.
-/
def keepsDirection (text : List Char) : Bool :=
  match text.head?.map WritingDirection.of with
  | none => true
  | some .leftToRight =>
    (directions text).all (!·.isReverse) &&
      (directions text).getLast?.all fun d => d == .leftToRight || d == .europeanNumber
  | some .rightToLeft =>
    (directions text).all (· != .leftToRight) &&
      (directions text).getLast?.all (fun d => d != .neutral) &&
      !((directions text).contains .arabicNumber && (directions text).contains .europeanNumber)
  | some _ => false

/-- Whether a text has characters that run from right to left. -/
def isReverse (text : List Char) : Bool :=
  text.any fun c => (WritingDirection.of c).isReverse

/-! ## Whole domains -/

/-- The labels of a domain. -/
def labels? (s : List Char) : Option (List Label) := do
  let text := composed (← s.mapM mapped?).flatten
  guard (!text.any isForbidden)
  let labels ← (splitOn (· == '.') text).mapM label?
  guard (!labels.any (isReverse ·.text) || labels.all (keepsDirection ·.text))
  return labels

/-- The form of a domain that goes over the network. -/
def toAscii? (s : List Char) : Option (List Char) :=
  (labels? s).map fun labels => ['.'].intercalate (labels.map Label.ascii)

end Metering.Url.Domain
