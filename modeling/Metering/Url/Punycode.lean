/-!
# Punycode

Texts beyond ASCII as ASCII: the ASCII characters in their order, a hyphen if there are any, and
then the other characters by increasing code point, each as the number of positions and code points
passed over since the last one. These numbers have digits to base 36 with a moving threshold.
-/

namespace Metering.Url.Punycode

/-- The threshold of the digit at a place, places being counted in steps of 36. -/
def threshold (place bias : Nat) : Nat :=
  min 26 (max 1 (place - bias))

/-- A threshold is positive, so that every digit gets a step further. -/
theorem threshold_pos (place bias : Nat) : 0 < threshold place bias := by
  simp only [threshold]; omega

/-- Divides by 35 until the number is at most 455, counting 36 for each division. -/
def scaleDown (delta count : Nat) : Nat × Nat :=
  if 455 < delta then scaleDown (delta / 35) (count + 36) else (delta, count)
termination_by delta

/-- The bias for the next number. -/
def adapt (delta points : Nat) (first : Bool) : Nat :=
  let halved := if first then delta / 700 else delta / 2
  let (rest, count) := scaleDown (halved + halved / points) 0
  count + 36 * rest / (rest + 38)

/-- A digit to base 36. -/
def digit (n : Nat) : Char :=
  if n < 26 then Char.ofNat ('a'.toNat + n) else Char.ofNat ('0'.toNat + (n - 26))

/-- The value of a digit to base 36. -/
def digitValue? (c : Char) : Option Nat :=
  if 'a' ≤ c ∧ c ≤ 'z' then some (c.toNat - 'a'.toNat)
  else if 'A' ≤ c ∧ c ≤ 'Z' then some (c.toNat - 'A'.toNat)
  else if '0' ≤ c ∧ c ≤ '9' then some (c.toNat - '0'.toNat + 26)
  else none

/-- The digits of a number from a place on. -/
def digits (bias place n : Nat) : List Char :=
  let t := threshold place bias
  if n < t then [digit n]
  else digit (t + (n - t) % (36 - t)) :: digits bias (place + 36) ((n - t) / (36 - t))
termination_by n
decreasing_by
  have := threshold_pos place bias
  have := Nat.div_le_self (n - threshold place bias) (36 - threshold place bias)
  omega

/--
What has been written of a text: the digits, the number of positions passed over, the bias, and
the number of characters written.
-/
structure Progress where
  written : List Char
  delta : Nat
  bias : Nat
  count : Nat

/-- Passes a character of the text while those with a given code point are written. -/
def Progress.pass (basic point : Nat) (p : Progress) (c : Char) : Progress :=
  if c.toNat < point then { p with delta := p.delta + 1 }
  else if c.toNat = point then
    { written := p.written ++ digits p.bias 36 p.delta
      delta := 0
      bias := adapt p.delta (p.count + 1) (p.count == basic)
      count := p.count + 1 }
  else p

/-- The ASCII form of a text. -/
def encode (s : List Char) : List Char :=
  let basic := s.filter fun c => c.toNat < 128
  let points := ((s.map Char.toNat).filter (128 ≤ ·)).eraseDups.mergeSort (· ≤ ·)
  let start : Nat × Progress := (128, ⟨[], 0, 72, basic.length⟩)
  let (_, done) := points.foldl (fun (next, p) point =>
    let p := { p with delta := p.delta + (point - next) * (p.count + 1) }
    let p := s.foldl (Progress.pass basic.length point) p
    (point + 1, { p with delta := p.delta + 1 })) start
  (if basic.isEmpty then [] else basic ++ ['-']) ++ done.written

/--
The number that begins a text, to be added to `sum`, and what follows it. Neither the sum nor the
weight of a digit may exceed 32 bits.
-/
def number? (bias : Nat) : Nat → Nat → Nat → List Char → Option (Nat × List Char)
  | _, _, _, [] => none
  | place, weight, sum, c :: rest => do
    let value ← digitValue? c
    let t := threshold place bias
    let sum := sum + value * weight
    guard (weight < UInt32.size && sum < UInt32.size)
    if value < t then return (sum, rest)
    number? bias (place + 36) (weight * (36 - t)) sum rest

/-- The characters read so far with those that the digits insert. -/
def insertions? : Nat → List Char → List Nat → Nat → Nat → Nat → Option (List Nat)
  | _, [], points, _, _, _ => some points
  | 0, _, _, _, _, _ => none
  | fuel + 1, s, points, point, position, bias => do
    let (reached, rest) ← number? bias 36 1 position s
    let size := points.length + 1
    let point := point + reached / size
    let place := reached % size
    guard (point < 0x110000 && !(0xD800 ≤ point && point < 0xE000))
    insertions? fuel rest (points.take place ++ point :: points.drop place) point (place + 1)
      (adapt (reached - position) size (position == 0))

/-- The text of an ASCII form. There is no hyphen where there are no ASCII characters. -/
def decode? (s : List Char) : Option (List Char) := do
  let tail := (s.reverse.takeWhile (· != '-')).reverse
  let front := s.take (s.length - tail.length)
  guard (front != ['-'] && front.all (·.toNat < 128))
  let basic := front.dropLast
  let points ← insertions? (tail.length + 1) tail (basic.map Char.toNat) 128 0 72
  return points.map Char.ofNat

end Metering.Url.Punycode
