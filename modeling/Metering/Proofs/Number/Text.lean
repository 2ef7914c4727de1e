import Mathlib.Tactic.Lemma
import Metering.Number.Shortest

/-!
# Characters of numbers

What numbers are written with: digits, and a few characters beside them (`isNumeral`). A number is
never written as the empty text, and an integer can be read back from its text (`int?_intText`).
-/

namespace Metering.Number

/-- The characters that numbers are written with. -/
def isNumeral (c : Char) : Bool :=
  c.isDigit || ['-', '.', 'N', 'a', 'i', 'n', 'f'].contains c

/-! ## Digits -/

/-- A natural number is written with digits. -/
lemma isDigit_of_mem_natText {n : Nat} {c : Char} (mem : c ∈ natText n) : c.isDigit :=
  Nat.isDigit_of_mem_toDigits (by decide) (by decide) mem

/-- A natural number is written with numerals. -/
lemma isNumeral_of_mem_natText {n : Nat} {c : Char} (mem : c ∈ natText n) : isNumeral c := by
  rw [isNumeral, isDigit_of_mem_natText mem, Bool.true_or]

/-- The number that digits write, if they are digits. -/
def nat? (digits : List Char) : Option Nat :=
  if digits ≠ [] ∧ digits.all Char.isDigit then some (Nat.ofDigitChars 10 digits 0) else none

/-- The integer that a text writes. -/
def int? : List Char → Option Int
  | '-' :: digits => (nat? digits).map fun n : Nat => -(n : Int)
  | digits => (nat? digits).map Int.ofNat

/-- A natural number is read back from its text. -/
lemma nat?_natText (n : Nat) : nat? (natText n) = some n := by
  have digits : (natText n).all Char.isDigit :=
    List.all_eq_true.2 fun c mem => isDigit_of_mem_natText mem
  rw [nat?, if_pos ⟨Nat.toDigits_ne_nil, digits⟩, natText, Nat.ofDigitChars_ten_toDigits]

/-- An integer is read back from its text. -/
theorem int?_intText (n : Int) : int? (intText n) = some n := by
  rw [intText]
  by_cases negative : n < 0
  · rw [if_pos negative, int?, nat?_natText, Option.map_some]
    exact congrArg some (by omega)
  · rw [if_neg negative]
    have unsigned : int? (natText n.natAbs) = (nat? (natText n.natAbs)).map Int.ofNat := by
      cases text : natText n.natAbs with
      | nil => rfl
      | cons c rest =>
        -- the first character is a digit, and no sign
        have digit : c.isDigit := isDigit_of_mem_natText (text ▸ List.mem_cons_self ..)
        have ne : c ≠ '-' := by
          rintro rfl
          cases digit
        simp [int?, ne]
    rw [unsigned, nat?_natText, Option.map_some]
    exact congrArg some (Int.natAbs_of_nonneg (Int.not_lt.1 negative))

/-- An integer is written with numerals. -/
lemma isNumeral_of_mem_intText {n : Int} {c : Char} (mem : c ∈ intText n) : isNumeral c := by
  rw [intText] at mem
  split at mem
  · rcases List.mem_cons.1 mem with rfl | digit
    · rfl
    · exact isNumeral_of_mem_natText digit
  · exact isNumeral_of_mem_natText mem

/-! ## Doubles -/

/-- Zeros are numerals. -/
lemma isNumeral_of_mem_zeros {n : Nat} {c : Char} (mem : c ∈ List.replicate n '0') :
    isNumeral c := by
  rw [List.eq_of_mem_replicate mem]
  rfl

/-- A decimal is written with numerals. -/
lemma isNumeral_of_mem_decimal {d : Decimal} {c : Char} (mem : c ∈ d.text) : isNumeral c := by
  have digit {digits : List Char} (sub : digits ⊆ natText d.digits) (mem : c ∈ digits) :
      isNumeral c :=
    isNumeral_of_mem_natText (sub mem)
  unfold Decimal.text at mem
  split at mem
  · rcases List.mem_append.1 mem with whole | zero
    · exact isNumeral_of_mem_natText whole
    · exact isNumeral_of_mem_zeros zero
  · simp only at mem
    split at mem
    · rcases List.mem_append.1 mem with whole | mem
      · exact digit (List.take_subset ..) whole
      · rcases List.mem_cons.1 mem with rfl | place
        · rfl
        · exact digit (List.drop_subset ..) place
    · rcases List.mem_cons.1 mem with rfl | mem
      · rfl
      · rcases List.mem_cons.1 mem with rfl | mem
        · rfl
        · rcases List.mem_append.1 mem with zero | place
          · exact isNumeral_of_mem_zeros zero
          · exact isNumeral_of_mem_natText place

/-- A decimal has text. -/
lemma decimal_ne_nil (d : Decimal) : d.text ≠ [] := by
  have digits : natText d.digits ≠ [] := Nat.toDigits_ne_nil
  unfold Decimal.text
  split
  · exact List.append_ne_nil_of_left_ne_nil digits _
  · simp only
    split
    · exact List.append_ne_nil_of_right_ne_nil _ (List.cons_ne_nil _ _)
    · exact List.cons_ne_nil _ _

/-- A double is written with numerals. -/
theorem isNumeral_of_mem_text {x : Float} {c : Char} (mem : c ∈ text x) : isNumeral c := by
  have signed {bits : Nat} {s : List Char} (numerals : ∀ c ∈ s, isNumeral c)
      (mem : c ∈ (if bits = 1 then ['-'] else []) ++ s) : isNumeral c := by
    rcases List.mem_append.1 mem with sign | rest
    · split at sign
      · rw [List.mem_singleton.1 sign]
        rfl
      · cases sign
    · exact numerals c rest
  unfold text at mem
  simp only at mem
  split at mem
  · exact List.all_eq_true.1 (by decide : ['N', 'a', 'N'].all isNumeral) c mem
  · split at mem
    · exact signed (List.all_eq_true.1 (by decide)) mem
    · split at mem
      · exact signed (List.all_eq_true.1 (by decide)) mem
      · exact signed (fun c mem => isNumeral_of_mem_decimal mem) mem

/-- A number has text. -/
theorem text_ne_nil (x : Float) : text x ≠ [] := by
  unfold text
  simp only
  split
  · exact List.cons_ne_nil _ _
  · split
    · exact List.append_ne_nil_of_right_ne_nil _ (List.cons_ne_nil _ _)
    · split
      · exact List.append_ne_nil_of_right_ne_nil _ (List.cons_ne_nil _ _)
      · exact List.append_ne_nil_of_right_ne_nil _ (decimal_ne_nil _)

end Metering.Number
