import Mathlib.Algebra.Ring.Parity
import Mathlib.Data.List.DropRight
import Metering.Influx.Writer
import Metering.Proofs.Influx.Grammar

/-!
# Reading the statement that creates a database

In an identifier between quotes a backslash makes the next character literal (`identifier?`). The
statement has a backslash added before each quote of the name, and none before a backslash. How it is
read depends on the backslashes of the name (`Reading`): it names the database exactly if there are none,
and a quote of the name ends the identifier if it stands behind a backslash that makes it literal.
-/

namespace Metering.Influx

/-- Reads the rest of an identifier up to the quote that ends it, and what is left behind that quote. -/
def identifier? : List Char → Option (List Char × List Char)
  | [] => none
  | ['\\'] => none
  | '\\' :: c :: s => (identifier? s).map fun read => (c :: read.1, read.2)
  | '"' :: s => some ([], s)
  | c :: s => (identifier? s).map fun read => (c :: read.1, read.2)

/-- What is left for the last case of `identifier?` and of `literals`. -/
lemma ne_backslash {c : Char} {s : List Char} (lone : c = '\\' → s = [] → False)
    (pair : ∀ d t, c = '\\' → s = d :: t → False) : c ≠ '\\' := by
  rintro rfl
  cases s with
  | nil => exact lone rfl rfl
  | cons d s => exact pair d s rfl rfl

/-- A character that is neither backslash nor quote stands for itself. -/
lemma identifier?_literal {c : Char} (backslash : c ≠ '\\') (quote : c ≠ '"') (s : List Char) :
    identifier? (c :: s) = (identifier? s).map fun read => (c :: read.1, read.2) :=
  identifier?.eq_5 c s (fun is _ => backslash is) (fun _ _ is _ => backslash is) quote

/-- The characters that a text stands for, of which some are made literal. -/
def literals : List Char → List Char
  | [] => []
  | ['\\'] => []
  | '\\' :: c :: s => c :: literals s
  | c :: s => c :: literals s

/-- What a text reads as is no longer than the text. -/
lemma length_literals_le (s : List Char) : (literals s).length ≤ s.length := by
  fun_induction literals s <;> simp only [List.length_cons, List.length_nil] <;> omega

/-- A text stands for itself if it has no backslash. -/
lemma literals_eq_self_iff {s : List Char} : literals s = s ↔ '\\' ∉ s := by
  fun_induction literals s with
  | case1 => exact iff_of_true rfl List.not_mem_nil
  | case2 => exact iff_of_false (List.cons_ne_nil _ _).symm (not_not.2 (List.mem_singleton.2 rfl))
  | case3 c s =>
    refine iff_of_false (fun same => ?_) (not_not.2 List.mem_cons_self)
    have shorter := length_literals_le s
    have longer := congrArg List.length same
    simp only [List.length_cons] at longer
    omega
  | case4 c s lone pair ih =>
    have backslash : '\\' ≠ c := (ne_backslash lone pair).symm
    rw [List.cons_inj_right, ih, List.mem_cons, not_or, and_iff_right backslash]

/-! ## Backslashes of a name -/

/-- The number of backslashes at the end. If it is even, the next character is not made literal. -/
def trailing (s : List Char) : ℕ := (s.rtakeWhile (· = '\\')).length

/-- A backslash goes on with those at the end, and any other character ends them. -/
lemma trailing_concat (s : List Char) (c : Char) :
    trailing (s ++ [c]) = if c = '\\' then trailing s + 1 else 0 := by
  rw [trailing, List.rtakeWhile_concat]
  split
  all_goals simp_all [trailing]

/-- Behind a text with paired backslashes those of the next one count alone. -/
lemma even_trailing_append {s : List Char} (even : Even (trailing s)) (t : List Char) :
    Even (trailing (s ++ t)) ↔ Even (trailing t) := by
  induction t using List.reverseRecOn with
  | nil => exact iff_of_true ((List.append_nil s).symm ▸ even) ⟨0, rfl⟩
  | append_singleton t c ih =>
    rw [← List.append_assoc, trailing_concat, trailing_concat]
    split
    case isTrue => rw [Nat.even_add_one, Nat.even_add_one, ih]
    case isFalse => rfl

/-- A backslash with the character behind it leaves none open. -/
lemma even_trailing_pair (c : Char) : Even (trailing ['\\', c]) := by
  rw [← List.singleton_append, trailing_concat]
  split
  case isTrue => exact ⟨1, rfl⟩
  case isFalse => exact ⟨0, rfl⟩

/-- No other character leaves a backslash open. -/
lemma even_trailing_singleton {c : Char} (backslash : c ≠ '\\') : Even (trailing [c]) := by
  rw [← List.nil_append [c], trailing_concat, if_neg backslash]
  exact ⟨0, rfl⟩

/-- The last one of an odd number of backslashes. -/
lemma split_of_odd_trailing {s : List Char} (odd : Odd (trailing s)) :
    ∃ before, s = before ++ ['\\'] ∧ Even (trailing before) := by
  induction s using List.reverseRecOn with
  | nil => exact absurd odd (by decide)
  | append_singleton s c ih =>
    rw [trailing_concat] at odd
    split at odd
    case isTrue backslash =>
      subst backslash
      exact ⟨s, rfl, by rwa [Nat.odd_add_one, Nat.not_odd_iff_even] at odd⟩
    case isFalse => exact absurd odd (by decide)

/-- A name with a quote that a backslash of the name makes literal. Written with another backslash before
it, the quote is not literal any more. -/
def Exposed (s : List Char) : Prop :=
  ∃ before after, s = before ++ '\\' :: '"' :: after ∧ Even (trailing before)

/-- A quote that is exposed stays so behind paired backslashes. -/
lemma Exposed.append_left {s t : List Char} (exposed : Exposed t) (even : Even (trailing s)) :
    Exposed (s ++ t) := by
  obtain ⟨before, after, rfl, rest⟩ := exposed
  exact ⟨s ++ before, after, (List.append_assoc ..).symm, (even_trailing_append even before).2 rest⟩

/-- A quote that is exposed stays so whatever follows. -/
lemma Exposed.append_right {s : List Char} (exposed : Exposed s) (t : List Char) :
    Exposed (s ++ t) := by
  obtain ⟨before, after, rfl, even⟩ := exposed
  exact ⟨before, after ++ t, by simp, even⟩

/-- There is a first such quote. -/
lemma Exposed.first {s : List Char} (exposed : Exposed s) :
    ∃ before after, s = before ++ '\\' :: '"' :: after ∧ ¬Exposed before ∧ Even (trailing before) := by
  obtain ⟨before, after, split, even⟩ := exposed
  by_cases again : Exposed before
  case pos =>
    obtain ⟨first, between, rfl, sound, even⟩ := again.first
    exact ⟨first, between ++ '\\' :: '"' :: after, by rw [split]; simp, sound, even⟩
  case neg => exact ⟨before, after, split, again, even⟩
termination_by s.length
decreasing_by
  rw [split, List.length_append, List.length_cons]
  omega

/-! ## Reading a name -/

/-- A name is read to its end, where no character is left to be made literal. -/
theorem identifier?_escaped_append {s : List Char} (sound : ¬Exposed s) (even : Even (trailing s))
    (t : List Char) : identifier? (escaped ['"'] s ++ t) =
      (identifier? t).map fun read => (literals s ++ read.1, read.2) := by
  -- the cases of `literals`: a pair of backslashes, or one character, which may be a quote
  fun_induction literals s with
  | case1 => exact Option.map_id'.symm
  | case2 => exact absurd even (by decide)
  | case3 c s ih =>
    have quote : ['"'].contains c = false := by
      rw [List.contains_eq_mem, decide_eq_false_iff_not, List.mem_singleton]
      rintro rfl
      exact sound ⟨[], s, rfl, by decide⟩
    have pair := even_trailing_pair c
    have read := ih (fun exposed => sound (exposed.append_left pair))
      ((even_trailing_append pair s).1 even)
    rw [escaped_cons, if_neg (by decide), escaped_cons, quote, if_neg Bool.false_ne_true,
      List.cons_append, List.cons_append, identifier?, read, Option.map_map]
    rfl
  | case4 c s lone pair ih =>
    have backslash : c ≠ '\\' := ne_backslash lone pair
    have single := even_trailing_singleton backslash
    have read := ih (fun exposed => sound (exposed.append_left single))
      ((even_trailing_append single s).1 even)
    by_cases quote : c = '"'
    case pos =>
      subst quote
      rw [escaped_cons, if_pos (by decide), List.cons_append, List.cons_append, identifier?, read,
        Option.map_map]
      rfl
    case neg =>
      rw [escaped_cons, if_neg (by simpa using quote), List.cons_append,
        identifier?_literal backslash quote, read, Option.map_map]
      rfl

/-- A name with the quote behind it, as the statement has it. -/
def quoted (s : List Char) : List Char := escaped ['"'] s ++ ['"']

variable {s before after : List Char}

/-- The first exposed quote ends the identifier. -/
lemma identifier?_cut (sound : ¬Exposed before) (even : Even (trailing before)) :
    identifier? (quoted (before ++ '\\' :: '"' :: after)) =
      some (literals before ++ ['\\'], quoted after) := by
  have added : quoted (before ++ '\\' :: '"' :: after) =
      escaped ['"'] before ++ '\\' :: '\\' :: '"' :: quoted after := by
    simp [quoted, escaped]
  rw [added, identifier?_escaped_append sound even]
  rfl

/-- Without an exposed quote, paired backslashes at the end leave the closing quote to end it. -/
lemma identifier?_whole (sound : ¬Exposed s) (even : Even (trailing s)) :
    identifier? (quoted s) = some (literals s, []) := by
  rw [quoted, identifier?_escaped_append sound even, identifier?, Option.map_some, List.append_nil]

/-- Without an exposed quote, an open backslash at the end takes the closing quote. -/
lemma identifier?_left_open (sound : ¬Exposed s) (odd : Odd (trailing s)) :
    identifier? (quoted s) = none := by
  obtain ⟨before, rfl, even⟩ := split_of_odd_trailing odd
  have added : quoted (before ++ ['\\']) = escaped ['"'] before ++ ['\\', '"'] := by
    simp [quoted, escaped]
  rw [added, identifier?_escaped_append (fun exposed => sound (exposed.append_right _)) even]
  rfl

/-- How a name is read that stands between quotes. -/
inductive Reading : List Char → Option (List Char × List Char) → Prop
  /-- A quote of the name ends the identifier. -/
  | cut {before after : List Char} (sound : ¬Exposed before) (even : Even (trailing before)) :
      Reading (before ++ '\\' :: '"' :: after) (some (literals before ++ ['\\'], quoted after))
  /-- The last quote ends the identifier. -/
  | whole {s : List Char} (sound : ¬Exposed s) (even : Even (trailing s)) :
      Reading s (some (literals s, []))
  /-- No quote ends the identifier. -/
  | left_open {s : List Char} (sound : ¬Exposed s) (odd : Odd (trailing s)) : Reading s none

/-- Every name is read in one of the three ways. -/
theorem reading (s : List Char) : Reading s (identifier? (quoted s)) := by
  by_cases exposed : Exposed s
  case pos =>
    obtain ⟨before, after, rfl, sound, even⟩ := exposed.first
    rw [identifier?_cut sound even]
    exact .cut sound even
  case neg =>
    rcases (trailing s).even_or_odd with even | odd
    case inl =>
      rw [identifier?_whole exposed even]
      exact .whole exposed even
    case inr =>
      rw [identifier?_left_open exposed odd]
      exact .left_open exposed odd

/-- A quoted name has at least its closing quote. -/
lemma quoted_ne_nil (s : List Char) : quoted s ≠ [] :=
  List.append_ne_nil_of_right_ne_nil _ (List.cons_ne_nil _ _)

variable {name behind : List Char}

/-- When the statement is read to its end, and as which name. -/
lemma identifier?_eq_whole_iff : identifier? (quoted s) = some (name, []) ↔
    ¬Exposed s ∧ Even (trailing s) ∧ name = literals s := by
  constructor
  case mp =>
    intro read
    have reading := reading s
    rw [read] at reading
    generalize none_left : [] = rest at reading
    cases reading with
    | cut => exact absurd none_left.symm (quoted_ne_nil _)
    | whole sound even => exact ⟨sound, even, rfl⟩
  case mpr =>
    rintro ⟨sound, even, rfl⟩
    exact identifier?_whole sound even

/-- When the identifier ends before the statement, as which name, and with what behind it. -/
lemma identifier?_eq_cut_iff : identifier? (quoted s) = some (name, behind) ∧ behind ≠ [] ↔
    ∃ before after, s = before ++ '\\' :: '"' :: after ∧ ¬Exposed before ∧ Even (trailing before) ∧
      name = literals before ++ ['\\'] ∧ behind = quoted after := by
  constructor
  case mp =>
    rintro ⟨read, some_left⟩
    have reading := reading s
    rw [read] at reading
    cases reading with
    | cut sound even => exact ⟨_, _, rfl, sound, even, rfl, rfl⟩
    | whole => exact absurd rfl some_left
  case mpr =>
    rintro ⟨before, after, rfl, sound, even, rfl, rfl⟩
    exact ⟨identifier?_cut sound even, quoted_ne_nil after⟩

/-- When no quote ends the identifier. -/
lemma identifier?_eq_none_iff :
    identifier? (quoted s) = none ↔ ¬Exposed s ∧ Odd (trailing s) := by
  constructor
  case mp =>
    intro read
    have reading := reading s
    rw [read] at reading
    cases reading with
    | left_open sound odd => exact ⟨sound, odd⟩
  case mpr => exact fun ⟨sound, odd⟩ => identifier?_left_open sound odd

/-- Without a backslash no quote is exposed. -/
lemma not_exposed (plain : '\\' ∉ s) : ¬Exposed s := by
  rintro ⟨before, after, rfl, -⟩
  exact plain (List.mem_append_right _ List.mem_cons_self)

/-- Without a backslash there is none at the end. -/
lemma trailing_eq_zero (plain : '\\' ∉ s) : trailing s = 0 := by
  rw [trailing, List.length_eq_zero_iff, List.rtakeWhile_eq_nil_iff]
  intro ne last
  exact plain (of_decide_eq_true last ▸ List.getLast_mem ne)

/-! ## The statement -/

/-- The statement has the name with a backslash before each quote, between quotes. -/
lemma toList_createStatement (database : String) :
    (Writer.createStatement database).toList =
      "CREATE DATABASE \"".toList ++ quoted database.toList := by
  have special : (fun c => if ['"'].contains c then ['\\', c] else [c]) =
      fun c => if c = '"' then ['\\', '"'] else [c] := by
    funext c
    by_cases quote : c = '"' <;> simp [quote]
  -- `rw` would first derive an equation, which evaluates the texts.
  unfold Writer.createStatement
  simp only [String.toList_append, String.toList_ofList, List.append_assoc, quoted, escaped, special]
  rfl

/-- The database that the statement creates is the one of the name exactly if the name has no backslash.
The identifier is ended before the end of the statement, or by no quote at all, only by a backslash of the
name that stands before a quote or at the end and that is not literal itself. -/
theorem creates_iff (database : String) :
    ∃ rest, (Writer.createStatement database).toList = "CREATE DATABASE \"".toList ++ rest ∧
      (identifier? rest = some (database.toList, []) ↔ '\\' ∉ database.toList) ∧
      (∀ name, identifier? rest = some (name, []) ↔
        ¬Exposed database.toList ∧ Even (trailing database.toList) ∧ name = literals database.toList) ∧
      (∀ name behind, identifier? rest = some (name, behind) ∧ behind ≠ [] ↔
        ∃ before after, database.toList = before ++ '\\' :: '"' :: after ∧ ¬Exposed before ∧
          Even (trailing before) ∧ name = literals before ++ ['\\'] ∧ behind = quoted after) ∧
      (identifier? rest = none ↔ ¬Exposed database.toList ∧ Odd (trailing database.toList)) := by
  refine ⟨quoted database.toList, toList_createStatement database, ?_,
    fun _ => identifier?_eq_whole_iff, fun _ _ => identifier?_eq_cut_iff, identifier?_eq_none_iff⟩
  rw [identifier?_eq_whole_iff, eq_comm, literals_eq_self_iff]
  constructor
  case mp => exact fun ⟨_, _, plain⟩ => plain
  case mpr =>
    intro plain
    refine ⟨not_exposed plain, ?_, plain⟩
    rw [trailing_eq_zero plain]
    exact ⟨0, rfl⟩

/-- A backslash, one at the end and one before a quote. -/
theorem not_creates_of_backslash :
    (Writer.createStatement "a\\b" = "CREATE DATABASE \"a\\b\"" ∧
      identifier? "a\\b\"".toList = some ("ab".toList, [])) ∧
    (Writer.createStatement "x\\" = "CREATE DATABASE \"x\\\"" ∧
      identifier? "x\\\"".toList = none) ∧
    Writer.createStatement "x\\\"; DROP DATABASE \"y" =
        "CREATE DATABASE \"x\\\\\"; DROP DATABASE \\\"y\"" ∧
      identifier? "x\\\\\"; DROP DATABASE \\\"y\"".toList =
        some ("x\\".toList, "; DROP DATABASE \\\"y\"".toList) := by
  refine ⟨⟨?_, ?_⟩, ⟨?_, ?_⟩, ?_, ?_⟩
  all_goals decide

end Metering.Influx
