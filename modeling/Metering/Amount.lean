import Metering.Number.Shortest

/-!
# Amounts

The numbers that meters hold. The operations that meters use are collected in a class, so that
every rule of the library reads alike over machine numbers and over exact ones. The program runs
on doubles.
-/

namespace Metering

/-- Numbers that a meter can accumulate. -/
class Amount (α : Type) extends Zero α, One α, Add α, Neg α, Div α where
  /-- The amount nearest to a count. -/
  ofCount : UInt64 → α
  /-- Neither infinite nor undefined. -/
  isFinite : α → Bool
  /-- Below zero. Zero itself, of either sign, is not. -/
  isNegative : α → Bool
  /-- The first amount if it exceeds the second, else the second. -/
  larger : α → α → α
  /-- The amount as it is written wherever amounts are exported. -/
  text : α → List Char

instance : Amount Float where
  zero := 0.0
  one := 1.0
  add := Float.add
  neg := Float.neg
  div := Float.div
  ofCount := UInt64.toFloat
  isFinite := Float.isFinite
  isNegative x := x < 0.0
  larger x y := if y < x then x else y
  text := Number.text

namespace Amount

variable {α : Type} [Amount α]

/-- A number of nanoseconds in seconds: whole seconds, then the fraction. -/
def seconds (nanos : UInt64) : α :=
  ofCount (nanos / 1000000000) + ofCount (nanos % 1000000000) / ofCount 1000000000

/-- A number of nanoseconds in milliseconds. -/
def milliseconds (nanos : UInt64) : α :=
  ofCount nanos / ofCount 1000000

end Amount

end Metering
