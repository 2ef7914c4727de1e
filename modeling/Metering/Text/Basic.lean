/-!
# Characters and pieces of a text

Digits and the numbers that they write, blanks, which a text is trimmed of, and the pieces between
separators. Main statements: `isBlank_of_isWhitespace` (every blank of the ASCII class is one),
`trim_blank` (a text of blanks alone trims to nothing) and `intercalate_splitOn` (joined by their
separator, the pieces are the text again).
-/

namespace Metering.Text

/-! ## Digits -/

/-- A decimal digit. -/
def isDigit (c : Char) : Bool :=
  '0' ≤ c && c ≤ '9'

/-- The number that decimal digits write. -/
def ofDigits (digits : List Char) : Nat :=
  digits.foldl (fun n c => 10 * n + (c.toNat - '0'.toNat)) 0

/-- The value of a hexadecimal digit. -/
def hexValue? (c : Char) : Option Nat :=
  if '0' ≤ c ∧ c ≤ '9' then some (c.toNat - '0'.toNat)
  else if 'a' ≤ c ∧ c ≤ 'f' then some (c.toNat - 'a'.toNat + 10)
  else if 'A' ≤ c ∧ c ≤ 'F' then some (c.toNat - 'A'.toNat + 10)
  else none

/-- The number that hexadecimal digits write. What is no digit counts as zero. -/
def ofHexDigits (digits : List Char) : Nat :=
  digits.foldl (fun n c => 16 * n + (hexValue? c).getD 0) 0

/-! ## Blanks -/

/-- A character with the Unicode property White_Space. -/
def isBlank (c : Char) : Bool :=
  let n := c.toNat
  (9 ≤ n && n ≤ 13) || n == 0x20 || n == 0x85 || n == 0xA0 || n == 0x1680 ||
  (0x2000 ≤ n && n ≤ 0x200A) || n == 0x2028 || n == 0x2029 || n == 0x202F || n == 0x205F ||
  n == 0x3000

/-- The text without its leading blanks. -/
def trimStart (s : List Char) : List Char :=
  s.dropWhile isBlank

/-- The text without its trailing blanks. -/
def trimEnd (s : List Char) : List Char :=
  (s.reverse.dropWhile isBlank).reverse

/-- The text without leading and trailing blanks. -/
def trim (s : List Char) : List Char :=
  trimEnd (trimStart s)

/-- The blanks of ASCII are blanks. -/
theorem isBlank_of_isWhitespace {c : Char} (h : c.isWhitespace = true) : isBlank c = true := by
  simp only [Char.isWhitespace, Bool.or_eq_true, decide_eq_true_eq] at h
  rcases h with ((h | h) | h) | h <;> subst h <;> decide

/-- A text of blanks alone trims to nothing. -/
theorem trim_blank {s : List Char} (h : ∀ c ∈ s, isBlank c = true) : trim s = [] := by
  have dropped : trimStart s = [] := by
    induction s with
    | nil => rfl
    | cons c rest ih =>
      simp only [trimStart, List.dropWhile_cons, h c List.mem_cons_self, if_true]
      exact ih fun d hd => h d (List.mem_cons_of_mem c hd)
  simp [trim, dropped, trimEnd]

/-! ## Pieces -/

/-- The pieces of a text between separators. -/
def splitOn (separator : Char → Bool) : List Char → List (List Char)
  | [] => [[]]
  | c :: rest =>
    if separator c then [] :: splitOn separator rest
    else
      match splitOn separator rest with
      | [] => [[c]]
      | piece :: pieces => (c :: piece) :: pieces

/-- The words of a text between spaces and ends of lines. -/
def words (s : List Char) : List (List Char) :=
  (splitOn (fun c => c == ' ' || c == '\n') s).filter (!·.isEmpty)

/-- There is at least one piece. -/
theorem splitOn_ne_nil (separator : Char → Bool) (s : List Char) : splitOn separator s ≠ [] := by
  cases s with
  | nil => simp [splitOn]
  | cons c rest =>
    simp only [splitOn]
    split
    · simp
    · split <;> simp

/-- A character of a piece is one of the text. -/
theorem mem_of_mem_splitOn {separator : Char → Bool} {s piece : List Char} {c : Char}
    (mem : piece ∈ splitOn separator s) (inside : c ∈ piece) : c ∈ s := by
  induction s generalizing piece with
  | nil =>
    rw [splitOn, List.mem_singleton] at mem
    exact mem ▸ inside
  | cons d rest ih =>
    rw [splitOn] at mem
    split at mem
    · rcases List.mem_cons.1 mem with rfl | mem
      · cases inside
      · exact List.mem_cons_of_mem _ (ih mem inside)
    · split at mem
      · rw [List.mem_singleton] at mem
        exact List.mem_cons.2 (.inl (List.mem_singleton.1 (mem ▸ inside)))
      · next first more pieces =>
        rcases List.mem_cons.1 mem with rfl | later
        · rcases List.mem_cons.1 inside with rfl | inside
          · exact List.mem_cons_self
          · exact List.mem_cons_of_mem _ (ih (pieces ▸ List.mem_cons_self) inside)
        · exact List.mem_cons_of_mem _ (ih (pieces ▸ List.mem_cons_of_mem _ later) inside)

/-- The pieces between separators of one kind, put together again. -/
theorem intercalate_splitOn (d : Char) (s : List Char) :
    [d].intercalate (splitOn (· == d) s) = s := by
  induction s with
  | nil => rfl
  | cons c rest ih =>
    simp only [splitOn]
    have filled := splitOn_ne_nil (· == d) rest
    split
    · next h =>
      rw [List.intercalate_cons_of_ne_nil filled, ih]
      simp_all
    · split
      · next h => exact absurd h filled
      · next piece pieces h =>
        rw [h] at ih
        cases pieces with
        | nil => simp_all
        | cons next more =>
          rw [List.intercalate_cons_of_ne_nil (by simp)] at ih ⊢
          simp_all

end Metering.Text
