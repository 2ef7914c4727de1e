import Mathlib.Tactic.Lemma
import Mathlib.Data.UInt
import Metering.Text.Utf8

/-!
# Reading UTF-8 back

The bytes of a character are read as that character, whatever follows (`readUtf8_character`), so the
bytes of a text are read as the text (`ofUtf8Lossy_utf8`).
-/

namespace Metering.Text

/-- Continuation bytes are those from 80 to BF. -/
lemma isContinuation_iff {b : UInt8} :
    isContinuation b = true ↔ 0x80 ≤ b.toNat ∧ b.toNat ≤ 0xBF := by
  simp [isContinuation, UInt8.le_iff_toNat_le]

/-- The bounds on a second byte: those of all continuations, and tighter ones after four first
bytes. -/
lemma mayFollow_of_bounds {first second : UInt8}
    (continues : 0x80 ≤ second.toNat ∧ second.toNat ≤ 0xBF)
    (lowest₃ : first.toNat = 0xE0 → 0xA0 ≤ second.toNat)
    (highest₃ : first.toNat = 0xED → second.toNat ≤ 0x9F)
    (lowest₄ : first.toNat = 0xF0 → 0x90 ≤ second.toNat)
    (highest₄ : first.toNat = 0xF4 → second.toNat ≤ 0x8F) : mayFollow first second = true := by
  have eq_iff (b : UInt8) : (first == b) = decide (first.toNat = b.toNat) := by
    rw [Bool.eq_iff_iff, beq_iff_eq, decide_eq_true_iff, UInt8.toNat_inj]
  simp only [mayFollow, eq_iff, Bool.and_eq_true, decide_eq_true_eq, UInt8.le_iff_toNat_le]
  constructor
  · split
    · exact lowest₃ ‹_›
    · split
      · exact lowest₄ ‹_›
      · exact continues.1
  · split
    · exact highest₃ ‹_›
    · split
      · exact highest₄ ‹_›
      · exact continues.2

/-! ## Characters by the number of their bytes -/

section Bytes

variable {a b c d : UInt8} (rest : List UInt8)

/-- A character of one byte is read. -/
lemma readUtf8_one (low : a.toNat < 0x80) :
    readUtf8 (a :: rest) = some (Char.ofNat a.toNat) :: readUtf8 rest := by
  have one : a < 0x80 := UInt8.lt_iff_toNat_lt.2 low
  rw [readUtf8.eq_def]
  simp only [one, if_true]

/-- The first byte of several is none that stands alone and none that starts nothing. -/
lemma not_single (low : 0xC2 ≤ a.toNat) (high : a.toNat ≤ 0xF4) :
    ¬ a < 0x80 ∧ ¬ (a < 0xC2 || 0xF4 < a) = true := by
  simp only [Bool.or_eq_true, decide_eq_true_eq, UInt8.lt_iff_toNat_lt, not_or, not_lt]
  refine ⟨?_, low, high⟩
  change 0x80 ≤ a.toNat
  omega

/-- A character of two bytes is read. -/
lemma readUtf8_two (low : 0xC2 ≤ a.toNat) (high : a.toNat < 0xE0)
    (second : isContinuation b = true) :
    readUtf8 (a :: b :: rest) =
      some (Char.ofNat (a.toNat % 32 * 64 + b.toNat % 64)) :: readUtf8 rest := by
  obtain ⟨not_one, not_stray⟩ := not_single low (by omega)
  have two : a < 0xE0 := UInt8.lt_iff_toNat_lt.2 high
  rw [readUtf8.eq_def]
  dsimp only
  rw [if_neg not_one, if_neg not_stray, if_pos two, if_pos second]
  rfl

/-- A character of three bytes is read. -/
lemma readUtf8_three (low : 0xE0 ≤ a.toNat) (high : a.toNat < 0xF0)
    (second : mayFollow a b = true) (third : isContinuation c = true) :
    readUtf8 (a :: b :: c :: rest) =
      some (Char.ofNat (a.toNat % 16 * 4096 + b.toNat % 64 * 64 + c.toNat % 64)) ::
        readUtf8 rest := by
  obtain ⟨not_one, not_stray⟩ := not_single (a := a) (by omega) (by omega)
  have not_two : ¬ a < 0xE0 := fun less => not_lt.2 low (UInt8.lt_iff_toNat_lt.1 less)
  have three : a < 0xF0 := UInt8.lt_iff_toNat_lt.2 high
  rw [readUtf8.eq_def]
  dsimp only
  rw [if_neg not_one, if_neg not_stray, if_neg not_two, if_pos three, if_pos second, if_pos third]
  rfl

/-- A character of four bytes is read. -/
lemma readUtf8_four (low : 0xF0 ≤ a.toNat) (high : a.toNat ≤ 0xF4)
    (second : mayFollow a b = true) (third : isContinuation c = true)
    (fourth : isContinuation d = true) :
    readUtf8 (a :: b :: c :: d :: rest) =
      some (Char.ofNat (a.toNat % 8 * 262144 + b.toNat % 64 * 4096 + c.toNat % 64 * 64 +
        d.toNat % 64)) :: readUtf8 rest := by
  obtain ⟨not_one, not_stray⟩ := not_single (a := a) (by omega) high
  have not_two : ¬ a < 0xE0 := fun less =>
    not_lt.2 (le_trans (by decide) low) (UInt8.lt_iff_toNat_lt.1 less)
  have not_three : ¬ a < 0xF0 := fun less => not_lt.2 low (UInt8.lt_iff_toNat_lt.1 less)
  rw [readUtf8.eq_def]
  dsimp only
  rw [if_neg not_one, if_neg not_stray, if_neg not_two, if_neg not_three, if_pos second,
    if_pos third, if_pos fourth]
  rfl

end Bytes

/-! ## Texts -/

/-- Small numbers are bytes as they are. -/
lemma toNat_ofNat_of_lt {n : ℕ} (small : n < 256) : (UInt8.ofNat n).toNat = n := by
  rw [UInt8.toNat_ofNat']
  omega

/-- The low six bits behind the mark are a continuation byte. -/
lemma isContinuation_ofNat (n : ℕ) : isContinuation (UInt8.ofNat (n % 64 + 128)) = true := by
  rw [isContinuation_iff, toNat_ofNat_of_lt (by omega)]
  omega

/-- The bytes of a character are read as the character, whatever follows. -/
lemma readUtf8_character (c : Char) (rest : List UInt8) :
    readUtf8 (String.utf8EncodeChar c ++ rest) = some c :: readUtf8 rest := by
  have valid : c.val.toNat < 0xD800 ∨ 0xDFFF < c.val.toNat ∧ c.val.toNat < 0x110000 := c.valid
  have whole : Char.ofNat c.val.toNat = c := Char.ofNat_toNat c
  simp only [String.utf8EncodeChar]
  generalize c.val.toNat = v at valid whole ⊢
  have low (n : ℕ) : (UInt8.ofNat (n % 64 + 128)).toNat % 64 = n % 64 := by
    rw [toNat_ofNat_of_lt (by omega)]
    omega
  -- one case for each number of bytes
  split
  · rw [List.singleton_append, readUtf8_one rest (by rw [toNat_ofNat_of_lt (by omega)]; omega),
      toNat_ofNat_of_lt (by omega), whole]
  · split
    · have first := toNat_ofNat_of_lt (n := v / 64 % 32 + 192) (by omega)
      have number : (v / 64 % 32 + 192) % 32 * 64 + v % 64 = v := by omega
      rw [List.cons_append, List.singleton_append,
        readUtf8_two rest (by rw [first]; omega) (by rw [first]; omega) (isContinuation_ofNat v), first, low,
        number, whole]
    · split
      · have first := toNat_ofNat_of_lt (n := v / 4096 % 16 + 224) (by omega)
        have second := toNat_ofNat_of_lt (n := v / 64 % 64 + 128) (by omega)
        have number : (v / 4096 % 16 + 224) % 16 * 4096 + v / 64 % 64 * 64 + v % 64 = v := by omega
        have follows : mayFollow (UInt8.ofNat (v / 4096 % 16 + 224))
            (UInt8.ofNat (v / 64 % 64 + 128)) = true := by
          apply mayFollow_of_bounds <;> omega
        rw [List.cons_append, List.cons_append, List.singleton_append,
          readUtf8_three rest (by rw [first]; omega) (by rw [first]; omega) follows (isContinuation_ofNat v),
          first, low, low, number, whole]
      · have first := toNat_ofNat_of_lt (n := v / 262144 % 8 + 240) (by omega)
        have second := toNat_ofNat_of_lt (n := v / 4096 % 64 + 128) (by omega)
        have number : (v / 262144 % 8 + 240) % 8 * 262144 + v / 4096 % 64 * 4096 +
            v / 64 % 64 * 64 + v % 64 = v := by omega
        have follows : mayFollow (UInt8.ofNat (v / 262144 % 8 + 240))
            (UInt8.ofNat (v / 4096 % 64 + 128)) = true := by
          apply mayFollow_of_bounds <;> omega
        rw [List.cons_append, List.cons_append, List.cons_append, List.singleton_append,
          readUtf8_four rest (by rw [first]; omega) (by rw [first]; omega) follows (isContinuation_ofNat _)
            (isContinuation_ofNat v), first, low, low, low, number, whole]

/-- Every text is read back from its bytes. -/
lemma readUtf8_utf8 (s : List Char) : readUtf8 (utf8 s) = s.map some := by
  induction s with
  | nil => rw [utf8, List.flatMap_nil, readUtf8, List.map_nil]
  | cons c s ih =>
    rw [utf8, List.flatMap_cons, readUtf8_character, List.map_cons]
    exact congrArg _ ih

/-- Nothing is lost when the bytes of a text are read. -/
theorem ofUtf8Lossy_utf8 (s : List Char) : ofUtf8Lossy (utf8 s) = s := by
  rw [ofUtf8Lossy, readUtf8_utf8, List.map_map]
  exact List.map_id s

end Metering.Text
