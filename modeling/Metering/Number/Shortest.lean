/-!
# Shortest decimal text of a number

A double is written with the fewest digits that read back as the same double, in positional
notation whatever its size. The search is exact: a positive double stands for the reals between
its two rounding boundaries, and the text is a multiple of the coarsest power of ten that has a
multiple among them, the nearest one if there are two.
-/

namespace Metering.Number

/-- A positive double, exactly `mantissa * 2 ^ exponent`. -/
structure Binary where
  mantissa : Nat
  exponent : Int
  /-- The double below lies at half the usual distance. -/
  lowGap : Bool

/-- A positive decimal, exactly `digits * 10 ^ exponent`. -/
structure Decimal where
  digits : Nat
  exponent : Int

/-- The positive double with these bits, the sign bit aside. -/
def Binary.ofBits (bits : Nat) : Binary :=
  let fraction : Nat := bits % 0x10000000000000
  let biased : Nat := bits / 0x10000000000000 % 0x800
  if biased = 0 then ⟨fraction, -1074, false⟩
  else ⟨0x10000000000000 + fraction, (biased : Int) - 1075, fraction == 0 && biased != 1⟩

/--
The multiple of `10 ^ p` that stands for the number, if one lies between its rounding boundaries.
All terms are counted in quarters of the last binary place, scaled to whole numbers.
-/
def Binary.multiple? (b : Binary) (p : Int) : Option Nat :=
  let scale := b.exponent - 2
  let up : Nat := Nat.pow 2 scale.toNat * Nat.pow 10 (-p).toNat
  let unit : Nat := Nat.pow 2 (-scale).toNat * Nat.pow 10 p.toNat
  let value : Nat := 4 * b.mantissa * up
  let low := (4 * b.mantissa - if b.lowGap then 1 else 2) * up
  let high := (4 * b.mantissa + 2) * up
  let below := value / unit
  let rest := value % unit
  let closed := b.mantissa % 2 == 0
  let fitsBelow := 0 < below && (if closed then low ≤ below * unit else low < below * unit)
  let fitsAbove := if closed then (below + 1) * unit ≤ high else (below + 1) * unit < high
  if fitsBelow && (rest == 0 || !fitsAbove || 2 * rest < unit) then some below
  else if fitsAbove then some (below + 1)
  else none

/-- The first hit on the grids of `10 ^ p`, `10 ^ (p - 1)`, and so on. -/
def Binary.search (b : Binary) : Nat → Int → Decimal
  | 0, p => ⟨1, p⟩
  | steps + 1, p =>
    match b.multiple? p with
    | some digits => ⟨digits, p⟩
    | none => b.search steps (p - 1)

/--
The shortest decimal for the number. The search starts at a power of ten above it; seventeen
digits always suffice, so twenty-two grids are enough.
-/
def Binary.shortest (b : Binary) : Decimal :=
  let bits : Int := b.exponent + Nat.log2 b.mantissa + 1
  b.search 22 (bits * 30103 / 100000 + 2)

/-- The digits of a natural number. -/
def natText (n : Nat) : List Char :=
  Nat.toDigits 10 n

/-- The digits of an integer, after a minus sign if it is negative. -/
def intText (n : Int) : List Char :=
  if n < 0 then '-' :: natText n.natAbs else natText n.natAbs

/-- Positional notation, without a point for a whole number. -/
def Decimal.text (d : Decimal) : List Char :=
  let digits := natText d.digits
  if 0 ≤ d.exponent then digits ++ List.replicate d.exponent.toNat '0'
  else
    let places := (-d.exponent).toNat
    if places < digits.length then
      digits.take (digits.length - places) ++ '.' :: digits.drop (digits.length - places)
    else '0' :: '.' :: List.replicate (places - digits.length) '0' ++ digits

/-- The text of a double. Both zeros keep their sign. -/
def text (x : Float) : List Char :=
  let bits := x.toBits.toNat
  let magnitude := bits % 0x8000000000000000
  let sign := if bits / 0x8000000000000000 = 1 then ['-'] else []
  if 0x7FF0000000000000 < magnitude then ['N', 'a', 'N']
  else if magnitude = 0x7FF0000000000000 then sign ++ ['i', 'n', 'f']
  else if magnitude = 0 then sign ++ ['0']
  else sign ++ (Binary.ofBits magnitude).shortest.text

end Metering.Number
