import Mathlib.Data.List.Basic
import Metering.Document.Printer
import Metering.Proofs.Number.Text

/-!
# Reading what was written

The reader of JSON sees in the text of a document what is in the document (`parse_encode`). It does
so part by part, whatever follows the part: a text between quotes (`scan_escaped`), a number
(`value_intText`), and then values, items and entries together (`reads`). The induction is on the
steps that the reader is given, of which the length of the text is enough.
-/

namespace Metering.Document

/-- The integers that can be read again. -/
def Fits (n : Int) : Prop :=
  -0x8000000000000000 ≤ n ∧ n < 0x10000000000000000

namespace Value

mutual

/-- What a reader sees of a document. -/
def node : Value → Node
  | .null => .null
  | .bool b => .bool b
  | .integer n => .integer n
  | .text s => .ofString s
  | .list items => .list (itemNodes items) .closed
  | .members entries => .members (entryNodes entries) .closed

/-- What a reader sees of the items of a list. -/
def itemNodes : List Value → List Node
  | [] => []
  | item :: items => item.node :: itemNodes items

/-- What a reader sees of the entries of an object. -/
def entryNodes : List (String × Value) → List (Except Misreading String × Node)
  | [] => []
  | (key, value) :: entries => (.ok key, value.node) :: entryNodes entries

end

mutual

/--
Whether a document can be read again: its integers fit, and its brackets nest at most `levels`
deep.
-/
def Writable (levels : Nat) (v : Value) : Prop :=
  match levels, v with
  | _, .integer n => Fits n
  | 0, .list _ => False
  | levels + 1, .list items => ItemsWritable levels items
  | 0, .members _ => False
  | levels + 1, .members entries => EntriesWritable levels entries
  | _, _ => True

/-- Whether this holds for the items of a list. -/
def ItemsWritable (levels : Nat) : List Value → Prop
  | [] => True
  | item :: items => item.Writable levels ∧ ItemsWritable levels items

/-- Whether this holds for the entries of an object. -/
def EntriesWritable (levels : Nat) : List (String × Value) → Prop
  | [] => True
  | (_, value) :: entries => value.Writable levels ∧ EntriesWritable levels entries

end

/-- What is in a list is written one level further down. -/
lemma Writable.list {levels : Nat} {items : List Value} (writable : Writable levels (.list items)) :
    ∃ inner, levels = inner + 1 ∧ ItemsWritable inner items := by
  cases levels with
  | zero => exact writable.elim
  | succ inner => exact ⟨inner, rfl, writable⟩

/-- What is in an object is written one level further down. -/
lemma Writable.members {levels : Nat} {entries : List (String × Value)}
    (writable : Writable levels (.members entries)) :
    ∃ inner, levels = inner + 1 ∧ EntriesWritable inner entries := by
  cases levels with
  | zero => exact writable.elim
  | succ inner => exact ⟨inner, rfl, writable⟩

end Value

namespace Json

open Text

/-! ## Texts -/

/-- The piece that a character becomes. -/
def Piece.of (c : Char) : Piece :=
  if c.toNat < 0x20 ∧ ¬ ['\x08', '\t', '\n', '\x0c', '\r'].contains c then unit c.toNat
  else char c

/-- The two hexadecimal digits of a control character are read as its number. -/
lemma hexUnit?_control : ∀ n < 0x20,
    hexUnit? '0' '0' (Nat.digitChar (n / 16)) (Nat.digitChar (n % 16)) = some n := by
  decide

/-- A control character is read back. -/
lemma scan_escapeControl {c : Char} (control : c.toNat < 0x20) (t : List Char) :
    scan (escapeControl c ++ t) = (scan t).cons (.of c) := by
  unfold escapeControl
  split
  case h_6 =>
    have long : ¬ ['\x08', '\t', '\n', '\x0c', '\r'].contains c := by simp_all
    rw [Piece.of, if_pos ⟨control, long⟩]
    simp only [List.cons_append, List.nil_append, scan, hexUnit?_control _ control]
  all_goals rfl

/-- A character is read back from how it is written between quotes. -/
lemma scan_escapeChar (c : Char) (t : List Char) :
    scan (escapeChar c ++ t) = (scan t).cons (.of c) := by
  unfold escapeChar
  split
  · next quote => subst quote; rfl
  split
  · next backslash => subst backslash; rfl
  split
  · next control => exact scan_escapeControl control t
  next no_quote no_backslash printed =>
  rw [Piece.of, if_neg fun both => printed both.1]
  simp only [List.cons_append, List.nil_append]
  rw [scan.eq_def]
  split
  case h_7 =>
    next eq =>
    obtain ⟨rfl, rfl⟩ := List.cons.inj eq
    exact if_neg printed
  all_goals simp_all

/-- A text is read back up to its closing quote. -/
lemma scan_escaped (s t : List Char) :
    scan (s.flatMap escapeChar ++ '"' :: t) = ⟨s.map Piece.of, none, t⟩ := by
  induction s with
  | nil => rfl
  | cons c s ih =>
    rw [List.flatMap_cons, List.append_assoc, scan_escapeChar, ih]
    rfl

/-- Characters that are none of a surrogate pair stand for themselves. -/
lemma assemble_of (s : List Char) : assemble none (s.map Piece.of) = .ok s := by
  induction s with
  | nil => rfl
  | cons c s ih =>
    rw [List.map_cons, Piece.of]
    split
    · next control =>
      have low : isLowSurrogate c.toNat = false :=
        Bool.eq_false_iff.2 fun low => by simp [isLowSurrogate] at low; omega
      have high : isHighSurrogate c.toNat = false :=
        Bool.eq_false_iff.2 fun high => by simp [isHighSurrogate] at high; omega
      rw [assemble.eq_def]
      simp only [low, high, ih, Char.ofNat_toNat]
      rfl
    · rw [assemble, ih]
      rfl

/-- The content of a written text is the text. -/
lemma content_scan (s t : List Char) :
    (scan (s.flatMap escapeChar ++ '"' :: t)).content = .ok (String.ofList s) := by
  rw [scan_escaped, Scanned.content, assemble_of]
  rfl

/-! ## Numbers -/

/-- What may follow a number without being taken for a part of it. -/
def Stops (t : List Char) : Prop :=
  ∀ c ∈ t.head?, ¬ (isDigit c ∨ c = '.' ∨ c = 'e' ∨ c = 'E')

/-- The digits of the library are digits of documents. -/
lemma isDigit_of_isDigit {c : Char} (digit : c.isDigit) : isDigit c := by
  simpa [Char.isDigit, isDigit, Char.le_def] using digit

/-- Digits are taken up to something that stops a number. -/
lemma digits_append {digits t : List Char} (all : ∀ c ∈ digits, isDigit c) (stops : Stops t) :
    (digits ++ t).takeWhile isDigit = digits ∧ (digits ++ t).dropWhile isDigit = t := by
  rw [List.takeWhile_append_of_pos all, List.dropWhile_append_of_pos all]
  cases t with
  | nil => simp
  | cons c t =>
    have other : ¬ isDigit c := fun digit => stops c rfl (.inl digit)
    simp [other]

/-- The number that digits write behind a number. -/
def continued (n : Nat) (digits : List Char) : Nat :=
  digits.foldl (fun n c => 10 * n + (c.toNat - '0'.toNat)) n

/-- A number does not get smaller when digits are added. -/
lemma le_continued (digits : List Char) (n : Nat) : n ≤ continued n digits := by
  induction digits generalizing n with
  | nil => exact Nat.le_refl n
  | cons c digits ih =>
    have step : n ≤ 10 * n + (c.toNat - '0'.toNat) := by omega
    exact Nat.le_trans step (ih _)

/-- All digits are gathered of a number that fits into 64 bits. -/
lemma gather_eq {digits : List Char} {n : Nat} (fits : continued n digits < UInt64.size) :
    gather n digits = (continued n digits, 0) := by
  induction digits generalizing n with
  | nil => rfl
  | cons c digits ih =>
    have next : ofDigits [c] + 10 * n = 10 * n + (c.toNat - '0'.toNat) := by
      simp [ofDigits, Nat.add_comm]
    rw [gather, next, if_pos (Nat.lt_of_le_of_lt (le_continued digits _) fits)]
    exact ih fits

/-- The digits of a number give the number. -/
lemma continued_natText (n : Nat) : continued 0 (Number.natText n) = n :=
  Nat.ofDigitChars_ten_toDigits

/-- Only zero is written as the digit zero. -/
lemma digitChar_ne_zero : ∀ n < 10, 0 < n → Nat.digitChar n ≠ '0' := by
  decide

/-- A positive number is not written with a leading zero. -/
lemma head_natText {n : Nat} (positive : 0 < n) : (Number.natText n).head? ≠ some '0' := by
  induction n using Nat.strongRecOn with
  | ind n ih =>
    rw [Number.natText, Nat.toDigits_eq_if (by decide)]
    split
    · next small =>
      exact fun zero => digitChar_ne_zero n small positive (Option.some.inj zero)
    · next large =>
      rw [List.head?_append_of_ne_nil _ Nat.toDigits_ne_nil]
      exact ih (n / 10) (by omega) (by omega)

/-- Nothing stands behind a leading zero. -/
lemma natText_ne_zero_cons {n : Nat} {c : Char} {t : List Char} :
    Number.natText n ≠ '0' :: c :: t := by
  intro eq
  obtain rfl | positive := Nat.eq_zero_or_pos n
  · cases eq
  · exact head_natText positive (by rw [eq]; rfl)

/-- A number is written with at least one digit. -/
lemma natText_cons (n : Nat) : ∃ c t, Number.natText n = c :: t ∧ isDigit c := by
  have ne_nil : Number.natText n ≠ [] := Nat.toDigits_ne_nil
  obtain ⟨c, t, eq⟩ := List.exists_cons_of_ne_nil ne_nil
  have mem : c ∈ Number.natText n := eq ▸ List.mem_cons_self
  exact ⟨c, t, eq, isDigit_of_isDigit (Number.isDigit_of_mem_natText mem)⟩

/-- A number is written with at least one character. -/
lemma intText_cons (n : Int) : ∃ c t, Number.intText n = c :: t ∧ Number.isNumeral c := by
  have ne_nil : Number.intText n ≠ [] := by
    rw [Number.intText]
    split
    · exact List.cons_ne_nil _ _
    · exact Nat.toDigits_ne_nil
  obtain ⟨c, t, eq⟩ := List.exists_cons_of_ne_nil ne_nil
  have mem : c ∈ Number.intText n := eq ▸ List.mem_cons_self
  exact ⟨c, t, eq, Number.isNumeral_of_mem_intText mem⟩

/-- A number with its sign is read back from its digits. -/
lemma whole_natText {n : Int} (fits : Fits n) :
    whole (n < 0) (Number.natText n.natAbs) = .integer n := by
  obtain ⟨least, greatest⟩ := fits
  have small : continued 0 (Number.natText n.natAbs) < UInt64.size := by
    rw [continued_natText, UInt64.size]
    omega
  rw [whole, gather_eq small, continued_natText]
  by_cases negative : n < 0
  · have inside : n.natAbs ≠ 0 ∧ n.natAbs ≤ 0x8000000000000000 := by omega
    simp only [negative, decide_true, Bool.not_true, Bool.false_eq_true, if_false, if_pos inside]
    congr
    omega
  · simp only [negative, decide_false, Bool.not_false, if_true]
    congr
    omega

/-- Where neither point nor exponent follows, the number is whole. -/
lemma afterWhole_of_stops {negative : Bool} {digits t : List Char} (stops : Stops t) :
    afterWhole negative digits t = (whole negative digits, t) := by
  unfold afterWhole
  split
  · exact absurd (stops '.' rfl) (by simp)
  · exact absurd (stops 'e' rfl) (by simp)
  · exact absurd (stops 'E' rfl) (by simp)
  · rfl

/-- A whole number is read back from its digits, up to something that stops it. -/
lemma number_natText {n : Int} (fits : Fits n) {t : List Char} (stops : Stops t) :
    number (n < 0) (Number.natText n.natAbs ++ t) = (.integer n, t) := by
  have all : ∀ c ∈ Number.natText n.natAbs, isDigit c := fun c mem =>
    isDigit_of_isDigit (Number.isDigit_of_mem_natText mem)
  obtain ⟨taken, left⟩ := digits_append all stops
  unfold number
  simp only [taken, left]
  split
  · next empty => exact absurd empty Nat.toDigits_ne_nil
  · next zero => exact absurd zero natText_ne_zero_cons
  · rw [afterWhole_of_stops stops, whole_natText fits]

/-! ## Values -/

/-- Nothing is skipped in front of what is no blank. -/
lemma skipBlanks_cons {c : Char} (t : List Char) (seen : ¬ isBlank c) :
    skipBlanks (c :: t) = c :: t :=
  List.dropWhile_cons_of_neg seen

/-- A class of characters without the four blanks has none. -/
lemma not_isBlank_of (kind : Char → Bool) (apart : [' ', '\n', '\t', '\r'].all (!kind ·))
    {c : Char} (of_kind : kind c) : ¬ isBlank c := by
  intro blank
  have mem : c ∈ [' ', '\n', '\t', '\r'] := by simpa [isBlank, or_assoc] using blank
  have other := List.all_eq_true.1 apart c mem
  rw [of_kind] at other
  cases other

/-- What begins with a digit is a number. -/
lemma value_digit {c : Char} (digit : isDigit c) (t : List Char) (fuel : Nat) :
    value (fuel + 1) (c :: t) = number false (c :: t) := by
  have seen := not_isBlank_of isDigit (by decide) digit
  rw [value, skipBlanks_cons t seen]
  split
  case h_9 =>
    next eq =>
    obtain ⟨rfl, rfl⟩ := List.cons.inj eq
    exact if_pos digit
  all_goals -- no other value begins with a digit
    next eq => cases eq <;> exact absurd digit (by decide)

/-- A whole number is read back as a value. -/
lemma value_intText {n : Int} (fits : Fits n) {t : List Char} (stops : Stops t) (fuel : Nat) :
    value (fuel + 1) (Number.intText n ++ t) = (.integer n, t) := by
  rw [← number_natText fits stops, Number.intText]
  by_cases negative : n < 0
  · rw [if_pos negative, decide_eq_true negative]
    rfl
  · rw [if_neg negative, decide_eq_false negative]
    obtain ⟨c, digits, eq, digit⟩ := natText_cons n.natAbs
    rw [eq]
    exact value_digit digit _ fuel

/-- A value is written with at least one character, which is no blank and ends no list. -/
lemma print_cons (v : Value) : ∃ c t, print v = c :: t ∧ ¬ isBlank c ∧ c ≠ ']' := by
  cases v with
  | null => exact ⟨'n', _, by rw [print], by decide, by decide⟩
  | bool b =>
    cases b with
    | true => exact ⟨'t', _, by rw [print], by decide, by decide⟩
    | false => exact ⟨'f', _, by rw [print], by decide, by decide⟩
  | integer n =>
    obtain ⟨c, t, eq, numeral⟩ := intText_cons n
    refine ⟨c, t, by rw [print, eq], not_isBlank_of Number.isNumeral (by decide) numeral, ?_⟩
    rintro rfl
    exact absurd numeral (by decide)
  | text s => exact ⟨'"', _, by rw [print, textLiteral, List.cons_append], by decide, by decide⟩
  | list items =>
    cases items with
    | nil => exact ⟨'[', _, by rw [print], by decide, by decide⟩
    | cons item items =>
      exact ⟨'[', _, by rw [print, List.cons_append], by decide, by decide⟩
  | members entries =>
    cases entries with
    | nil => exact ⟨'{', _, by rw [print], by decide, by decide⟩
    | cons e entries =>
      exact ⟨'{', _, by rw [print]; rfl, by decide, by decide⟩

section Steps

variable {fuel : Nat} {n : Node} {c : Char} {s t : List Char}

/-- What begins with a quote is a text. -/
lemma value_quote (s : List Char) (fuel : Nat) :
    value (fuel + 1) ('"' :: s) = (.text (scan s).content (scan s).fault, (scan s).rest) :=
  rfl

/-- What begins with a bracket is a list. -/
lemma value_bracket (seen : ¬ isBlank c) (other : c ≠ ']') {nodes : List Node} {ending : Ending}
    (read : items fuel (c :: s) = (nodes, ending, t)) :
    value (fuel + 1) ('[' :: c :: s) = (.list nodes ending, t) := by
  rw [value, skipBlanks_cons _ (by decide)]
  simp only [skipBlanks_cons _ seen]
  split
  · next eq => cases eq
  · next eq => exact absurd (List.cons.inj eq).1 other
  · rw [read]

/-- What begins with a brace and a quote is an object. -/
lemma value_brace {nodes : List (Except Misreading String × Node)} {ending : Ending}
    (read : entries fuel s = (nodes, ending, t)) :
    value (fuel + 1) ('{' :: '"' :: s) = (.members nodes ending, t) := by
  rw [value, skipBlanks_cons _ (by decide)]
  simp only [skipBlanks_cons s (by decide : ¬ isBlank '"'), read]

/-- Behind the last item stands the closing bracket. -/
lemma items_last (first : value fuel s = (n, ']' :: t)) :
    items (fuel + 1) s = ([n], .closed, t) := by
  rw [items, first]
  rfl

/-- Behind a comma the items go on. -/
lemma items_comma (first : value fuel s = (n, ',' :: c :: t)) (seen : ¬ isBlank c)
    (other : c ≠ ']') {nodes : List Node} {ending : Ending} {u : List Char}
    (read : items fuel (c :: t) = (nodes, ending, u)) :
    items (fuel + 1) s = (n :: nodes, ending, u) := by
  rw [items, first]
  simp only [skipBlanks_cons (c :: t) (by decide : ¬ isBlank ','), skipBlanks_cons t seen]
  split
  · next eq => cases eq
  · next eq => exact absurd (List.cons.inj eq).1 other
  · rw [read]

/-- Behind the last entry stands the closing brace. -/
lemma entries_last {key : String} (first : value fuel s = (n, '}' :: t)) :
    entries (fuel + 1) (key.toList.flatMap escapeChar ++ '"' :: ':' :: s) =
      ([(.ok key, n)], .closed, t) := by
  rw [entries, content_scan, scan_escaped, String.ofList_toList]
  simp only [skipBlanks_cons _ (by decide : ¬ isBlank ':'), first,
    skipBlanks_cons _ (by decide : ¬ isBlank '}')]

/-- Behind a comma and a quote the entries go on. -/
lemma entries_comma {key : String} (first : value fuel s = (n, ',' :: '"' :: t))
    {nodes : List (Except Misreading String × Node)} {ending : Ending} {u : List Char}
    (read : entries fuel t = (nodes, ending, u)) :
    entries (fuel + 1) (key.toList.flatMap escapeChar ++ '"' :: ':' :: s) =
      ((.ok key, n) :: nodes, ending, u) := by
  rw [entries, content_scan, scan_escaped, String.ofList_toList]
  simp only [skipBlanks_cons _ (by decide : ¬ isBlank ':'), first,
    skipBlanks_cons _ (by decide : ¬ isBlank ','), skipBlanks_cons _ (by decide : ¬ isBlank '"'),
    read]

end Steps

/-! ## Whole documents -/

/-- What stands behind an item stops a number. -/
lemma stops_printItems (items : List Value) (t : List Char) : Stops (printItems items ++ t) := by
  cases items with
  | nil => rintro c ⟨⟩; decide
  | cons item items => rintro c ⟨⟩; decide

/-- What stands behind an entry stops a number. -/
lemma stops_printEntries (entries : List (String × Value)) (t : List Char) :
    Stops (printEntries entries ++ t) := by
  cases entries with
  | nil => rintro c ⟨⟩; decide
  | cons e entries => rintro c ⟨⟩; decide

/-- A value is not written as nothing. -/
lemma length_print_pos (v : Value) : 0 < (print v).length := by
  obtain ⟨c, s, eq, -⟩ := print_cons v
  rw [eq]
  exact Nat.succ_pos _

/-- What is read, in so many steps, from the text of a document or of a part of one. -/
structure Reads (fuel : Nat) : Prop where
  value {levels : Nat} (v : Value) (t : List Char) :
    v.Writable levels → Stops t → (print v).length ≤ fuel →
      value fuel (print v ++ t) = (v.node, t)
  items {levels : Nat} (v : Value) (vs : List Value) (t : List Char) :
    Value.ItemsWritable levels (v :: vs) → (print v).length + (printItems vs).length ≤ fuel →
      items fuel (print v ++ (printItems vs ++ t)) = (Value.itemNodes (v :: vs), .closed, t)
  entries {levels : Nat} (key : String) (v : Value) (es : List (String × Value)) (t : List Char) :
    Value.EntriesWritable levels ((key, v) :: es) →
      (print v).length + (printEntries es).length ≤ fuel →
      entries fuel
          (key.toList.flatMap escapeChar ++ '"' :: ':' :: (print v ++ (printEntries es ++ t))) =
        (Value.entryNodes ((key, v) :: es), .closed, t)

namespace Reads

variable {fuel levels : Nat}

/-- Without fuel nothing is read, and nothing short enough is written. -/
lemma zero : Reads 0 where
  value v _ _ _ enough := by
    have := length_print_pos v
    omega
  items v _ _ _ enough := by
    have := length_print_pos v
    omega
  entries _ v _ _ _ enough := by
    have := length_print_pos v
    omega

/-- With one more fuel a value is read back. -/
lemma value_succ (reads : Reads fuel) (v : Value) (t : List Char) (writable : v.Writable levels)
    (stops : Stops t) (enough : (print v).length ≤ fuel + 1) :
    Json.value (fuel + 1) (print v ++ t) = (v.node, t) := by
  cases v with
  | null => rfl
  | bool b => cases b <;> rfl
  | integer n =>
    rw [print, Value.node]
    exact value_intText writable stops fuel
  | text s =>
    have quoted : print (.text s) ++ t = '"' :: (s.toList.flatMap escapeChar ++ '"' :: t) := by
      simp [print, textLiteral]
    rw [quoted, value_quote, content_scan, scan_escaped, String.ofList_toList]
    rfl
  | list vs =>
    cases vs with
    | nil => rfl
    | cons v vs =>
      -- the first character tells the reader that the list is not empty
      obtain ⟨c, s, eq, seen, other⟩ := print_cons v
      obtain ⟨_, -, writable⟩ := writable.list
      have read := reads.items v vs t writable (by simpa [print] using enough)
      have bracketed : print (.list (v :: vs)) ++ t = '[' :: c :: (s ++ (printItems vs ++ t)) := by
        simp [print, eq]
      rw [eq] at read
      rw [bracketed]
      exact value_bracket seen other read
  | members es =>
    cases es with
    | nil => rfl
    | cons e es =>
      obtain ⟨key, v⟩ := e
      obtain ⟨_, -, writable⟩ := writable.members
      have read := reads.entries key v es t writable (by
        simp [print, textLiteral] at enough
        omega)
      have braced : print (.members ((key, v) :: es)) ++ t =
          '{' :: '"' :: (key.toList.flatMap escapeChar ++
            '"' :: ':' :: (print v ++ (printEntries es ++ t))) := by
        simp [print, textLiteral]
      rw [braced]
      exact value_brace read

/-- With one more fuel items are read back. -/
lemma items_succ (reads : Reads fuel) (v : Value) (vs : List Value) (t : List Char)
    (writable : Value.ItemsWritable levels (v :: vs))
    (enough : (print v).length + (printItems vs).length ≤ fuel + 1) :
    Json.items (fuel + 1) (print v ++ (printItems vs ++ t)) =
      (Value.itemNodes (v :: vs), .closed, t) := by
  have positive := length_print_pos v
  have first := reads.value v (printItems vs ++ t) writable.1 (stops_printItems vs t)
  cases vs with
  | nil =>
    rw [printItems] at enough first
    exact items_last (first (by simpa using enough))
  | cons next vs =>
    rw [printItems, List.cons_append, List.length_cons, List.length_append] at enough
    -- behind a comma the next item begins with no blank and no bracket
    obtain ⟨c, s, eq, seen, other⟩ := print_cons next
    have read := reads.items next vs t writable.2 (by omega)
    have comma : printItems (next :: vs) ++ t = ',' :: c :: (s ++ (printItems vs ++ t)) := by
      simp [printItems, eq]
    rw [eq] at read
    rw [comma] at first ⊢
    exact items_comma (first (by omega)) seen other read

/-- With one more fuel entries are read back. -/
lemma entries_succ (reads : Reads fuel) (key : String) (v : Value) (es : List (String × Value))
    (t : List Char) (writable : Value.EntriesWritable levels ((key, v) :: es))
    (enough : (print v).length + (printEntries es).length ≤ fuel + 1) :
    Json.entries (fuel + 1)
        (key.toList.flatMap escapeChar ++ '"' :: ':' :: (print v ++ (printEntries es ++ t))) =
      (Value.entryNodes ((key, v) :: es), .closed, t) := by
  have positive := length_print_pos v
  have first := reads.value v (printEntries es ++ t) writable.1 (stops_printEntries es t)
  cases es with
  | nil =>
    rw [printEntries] at enough first
    exact entries_last (first (by simpa using enough))
  | cons next es =>
    obtain ⟨name, w⟩ := next
    have comma : printEntries ((name, w) :: es) ++ t =
        ',' :: '"' :: (name.toList.flatMap escapeChar ++
          '"' :: ':' :: (print w ++ (printEntries es ++ t))) := by
      simp [printEntries, textLiteral]
    simp [printEntries, textLiteral] at enough
    have read := reads.entries name w es t writable.2 (by omega)
    rw [comma] at first ⊢
    exact entries_comma (first (by omega)) read

end Reads

/-- By induction on the fuel: whatever is no longer than the fuel is read back. -/
theorem reads (fuel : Nat) : Reads fuel := by
  induction fuel with
  | zero => exact .zero
  | succ fuel ih => exact ⟨ih.value_succ, ih.items_succ, ih.entries_succ⟩

/-- A value that can be written is read back, and nothing is left. -/
theorem parse_encode {v : Value} {levels : Nat} (writable : v.Writable levels) :
    parse (encode v) = (v.node, true) := by
  have read := (reads (2 * (print v).length + 2)).value v [] writable (by rintro c ⟨⟩) (by omega)
  rw [List.append_nil] at read
  simp only [parse, encode, String.toList_ofList, read]
  rfl

end Json

end Metering.Document
