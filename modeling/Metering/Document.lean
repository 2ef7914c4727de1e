/-!
# Documents

Structured documents as they were met when read from left to right. Reading itself never fails:
what cannot be read stands in the tree, at its place, with what is wrong with it. Whoever makes
sense of a document walks it in order, so that the first problem met decides how the whole is
judged. A value that nobody asks for is judged more leniently than one that is looked at. A number is
judged by whether it is in the range of doubles; a whole number of at most 53 bits is one
(`Number.nearest_eq_self`).
-/

namespace Metering

/-! ## The range of doubles -/

namespace Number

/-- The least number that is too large for a double: half a place above the largest double. -/
def tooLarge : Nat := Nat.pow 2 1024 - Nat.pow 2 970

/--
Whether `digits * 10 ^ exponent` is within the range of doubles. Numbers far away from the limit
are decided by their number of digits.
-/
def inRange (digits : Nat) (exponent : Int) : Bool :=
  let size : Int := (Nat.toDigits 10 digits).length + exponent
  digits == 0 || size < 300 ||
    (size < 320 && digits * Nat.pow 10 exponent.toNat < tooLarge * Nat.pow 10 (-exponent).toNat)

/-- The whole number of 53 significant bits nearest to a whole number, the even one of two. -/
def nearest (n : Nat) : Nat :=
  let unit := Nat.pow 2 (n.log2 - 52)
  let quotient := n / unit
  let remainder := n % unit
  if unit < 2 * remainder ∨ (unit = 2 * remainder ∧ quotient % 2 = 1) then (quotient + 1) * unit
  else quotient * unit

/-- A whole number of at most 53 bits is a double. -/
theorem nearest_eq_self {n : Nat} (h : n < Nat.pow 2 53) : nearest n = n := by
  have small : n.log2 - 52 = 0 := by
    rcases Nat.eq_zero_or_pos n with rfl | pos
    · decide
    · have := (Nat.log2_lt (by omega : n ≠ 0)).2 h
      omega
  simp [nearest, small, Nat.mod_one]

end Number

/-! ## Documents -/

/-- Why a document cannot be used. -/
inductive Misreading where
  /-- The text breaks the rules of the format. -/
  | malformed
  /-- The text is fine and its content has another shape than was asked for. -/
  | mismatch
  /-- The text ends too early. -/
  | incomplete
  deriving DecidableEq, Repr

namespace Document

/-- What follows the last item of a list or the last entry of an object. -/
inductive Ending where
  /-- The closing bracket. -/
  | closed
  /-- Something else, where a separator or the closing bracket should be. -/
  | noSeparator (why : Misreading)
  /-- A separator without anything of use behind it. -/
  | danglingSeparator (why : Misreading)
  /-- A first key that is not a text. Read as a text it would give the misreading. -/
  | strayKey (asText : Misreading)
  deriving DecidableEq, Repr

/-- A document or a part of one. -/
inductive Node where
  | null
  | bool (value : Bool)
  | integer (value : Int)
  /-- A number that is not an integer, and whether it is within the range of doubles. -/
  | real (inRange : Bool)
  /-- A text, and what is wrong with it even for a reader that passes over it. -/
  | text (content : Except Misreading String) (skipped : Option Misreading)
  | list (items : List Node) (ending : Ending)
  | members (entries : List (Except Misreading String × Node)) (ending : Ending)
  /-- The text ends where a value should begin. -/
  | missing
  /-- Something else than a value, judged strictly and leniently. -/
  | broken (strict lenient : Misreading)

/-- What is wrong with an ending. -/
def Ending.check : Ending → Except Misreading Unit
  | closed => .ok ()
  | noSeparator why => .error why
  | danglingSeparator why => .error why
  | strayKey _ => .error .malformed

namespace Node

/-- A text in good order. -/
def ofString (s : String) : Node :=
  text (.ok s) none

/--
What is wrong with a value of another shape than the one asked for. Its scalars have to be in
order, what is inside brackets is not looked at.
-/
def unsuited : Node → Misreading
  | text (.error why) _ => why
  | real false => .malformed
  | missing => .incomplete
  | broken strict _ => strict
  | _ => .mismatch

mutual

/-- Passes over a value, which only has to be well-formed. -/
def skip : Node → Except Misreading Unit
  | text _ (some why) => .error why
  | missing => .error .incomplete
  | broken _ lenient => .error lenient
  | list items ending => do skipItems items; ending.check
  | members entries ending => do skipEntries entries; ending.check
  | _ => .ok ()

/-- Passes over the items of a list. -/
def skipItems : List Node → Except Misreading Unit
  | [] => .ok ()
  | item :: rest => do item.skip; skipItems rest

/-- Passes over the entries of an object. -/
def skipEntries : List (Except Misreading String × Node) → Except Misreading Unit
  | [] => .ok ()
  | (_, value) :: rest => do value.skip; skipEntries rest

end

mutual

/--
Checks a value that is put aside for later. Its texts and numbers have to be in order, and its
brackets nest at most `levels` deep.
-/
def hold (levels : Nat) : Node → Except Misreading Unit
  | text (.error why) _ => .error why
  | real false => .error .malformed
  | missing => .error .incomplete
  | broken strict _ => .error strict
  | list items ending =>
    match levels with
    | 0 => .error .malformed
    | levels + 1 => do holdItems levels items; ending.check
  | members entries ending =>
    match levels with
    | 0 => .error .malformed
    | levels + 1 => do holdEntries levels entries; ending.check
  | _ => .ok ()

/-- Checks the items of a list that is put aside. -/
def holdItems (levels : Nat) : List Node → Except Misreading Unit
  | [] => .ok ()
  | item :: rest => do item.hold levels; holdItems levels rest

/-- Checks the entries of an object that is put aside, each key before its value. -/
def holdEntries (levels : Nat) : List (Except Misreading String × Node) → Except Misreading Unit
  | [] => .ok ()
  | (key, value) :: rest => do let _ ← key; value.hold levels; holdEntries levels rest

end

end Node

end Document

end Metering
