import Mathlib.Tactic.Lemma
import Metering.Label.TypeName

/-!
# Scanning names of types

What the single steps find in a text whose parts are known: a beginning (`strip?_append`), the last
segment of a path (`lastSegment_append`), and the first argument of a list. In a text with paired
brackets the scanner of arguments comes out at the depth at which it went in
(`Paired.argument?_append`), so it finds an argument whole, however deep the lists inside are
(`Paired.argument?_eq`).
-/

namespace Metering

namespace Text

/-- A text that does not start with a blank has none to trim there. -/
lemma trimStart_eq_self {s : List Char} (first : ∀ c ∈ s.head?, isBlank c = false) :
    trimStart s = s := by
  cases s with
  | nil => rfl
  | cons c s => exact List.dropWhile_cons_of_neg (Bool.eq_false_iff.1 (first c rfl))

/-- A text that does not end with a blank, before any other. -/
lemma trimEnd_append {a : List Char} (last : ∀ c ∈ a.getLast?, isBlank c = false) (s : List Char) :
    trimEnd (a ++ s) = a ++ trimEnd s := by
  have reversed : trimStart a.reverse = a.reverse :=
    trimStart_eq_self fun c mem => last c (by rwa [List.head?_reverse] at mem)
  simp only [trimEnd, List.reverse_append, List.dropWhile_append]
  split
  · next all =>
    rw [List.isEmpty_iff.1 all]
    exact (congrArg List.reverse reversed).trans (by simp)
  · simp

/-- Nothing is trimmed off a text that neither begins nor ends with a blank. -/
lemma trim_eq_self {s : List Char} (first : ∀ c ∈ s.head?, isBlank c = false)
    (last : ∀ c ∈ s.getLast?, isBlank c = false) : trim s = s := by
  have trimmed := trimEnd_append last []
  rw [List.append_nil] at trimmed
  rw [trim, trimStart_eq_self first, trimmed]
  exact List.append_nil s

end Text

namespace TypeName

open Text

/-! ## Beginnings -/

/-- What is stripped off stood in front. -/
lemma strip?_eq_some_iff {p s rest : List Char} : strip? p s = some rest ↔ s = p ++ rest := by
  induction p generalizing s with
  | nil => rw [strip?, Option.some.injEq, List.nil_append]
  | cons c p ih =>
    cases s with
    | nil => simp [strip?]
    | cons d s =>
      by_cases same : c = d
      · rw [strip?, if_pos same, ih, same, List.cons_append, List.cons.injEq, and_iff_right rfl]
      · simp [strip?, same, Ne.symm same]

/-- A beginning can be stripped off. -/
lemma strip?_append (p s : List Char) : strip? p (p ++ s) = some s :=
  strip?_eq_some_iff.2 rfl

/-- A text without brackets has no character that is one. -/
lemma bne_of_mem {p : List Char} (plain : '<' ∉ p) : ∀ c ∈ p, (c != '<') = true :=
  fun _ mem => bne_iff_ne.2 (ne_of_mem_of_not_mem mem plain)

/-- A sign of the beginning that does not stand before the first list of the text. -/
lemma strip?_eq_none {p s : List Char} {c : Char} (plain : '<' ∉ p) (mem : c ∈ p)
    (not_mem : c ∉ s.takeWhile (· != '<')) : strip? p s = none := by
  refine Option.eq_none_iff_forall_ne_some.2 fun rest found => not_mem ?_
  rw [strip?_eq_some_iff.1 found, List.takeWhile_append_of_pos (bne_of_mem plain)]
  exact List.mem_append_left _ mem

/-- What stands behind ampersands, `mut` being looked for in front of it. -/
lemma dereference_replicate (n : Nat) {s : List Char}
    (first : ∀ c ∈ s.head?, c ≠ '&' ∧ isBlank c = false) :
    dereference (List.replicate n '&' ++ s) = (strip? "mut ".toList s).getD s := by
  have dropped : (List.replicate n '&' ++ s).dropWhile (· == '&') = s := by
    rw [List.dropWhile_append_of_pos fun c mem => beq_iff_eq.2 (List.eq_of_mem_replicate mem)]
    cases s with
    | nil => rfl
    | cons c s => exact List.dropWhile_cons_of_neg (mt beq_iff_eq.1 (first c rfl).1)
  rw [dereference, dropped, trimStart_eq_self fun c mem => (first c mem).2]

/-- The first bound goes on past words. -/
lemma firstBound_append {w : List Char} (plain : ' ' ∉ w) (s : List Char) :
    firstBound (w ++ s) = w ++ firstBound s := by
  induction w with
  | nil => rfl
  | cons c w ih =>
    obtain ⟨ne, plain⟩ := not_or.1 (mt List.mem_cons.2 plain)
    rw [List.cons_append, firstBound, ih plain, List.cons_append]
    exact fun _ same => absurd same.symm ne

/-! ## Paths -/

/-- A word is what stands before the two colons behind it. -/
lemma untilColons_append {w : List Char} (plain : ':' ∉ w) (s : List Char) :
    untilColons (w ++ ':' :: ':' :: s) = w := by
  induction w with
  | nil => rfl
  | cons c w ih =>
    obtain ⟨ne, plain⟩ := not_or.1 (mt List.mem_cons.2 plain)
    rw [List.cons_append, untilColons, ih plain]
    exact fun _ same => absurd same.symm ne

/-- Without colons the whole text stands before them. -/
lemma untilColons_eq_self {w : List Char} (plain : ':' ∉ w) : untilColons w = w := by
  induction w with
  | nil => rfl
  | cons c w ih =>
    obtain ⟨ne, plain⟩ := not_or.1 (mt List.mem_cons.2 plain)
    rw [untilColons, ih plain]
    exact fun _ same => absurd same.symm ne

/-- The last segment is what stands behind the last pair of colons. -/
lemma lastSegment_append {w : List Char} (plain : ':' ∉ w) (s : List Char) :
    lastSegment (s ++ "::".toList ++ w) = w := by
  have plain' : ':' ∉ w.reverse := fun mem => plain (List.mem_reverse.1 mem)
  have reversed : (s ++ "::".toList ++ w).reverse = w.reverse ++ ':' :: ':' :: s.reverse := by
    simp
  rw [lastSegment, reversed, untilColons_append plain', List.reverse_reverse]

/-- Without colons the whole text is its last segment. -/
lemma lastSegment_eq_self {w : List Char} (plain : ':' ∉ w) : lastSegment w = w := by
  have plain' : ':' ∉ w.reverse := fun mem => plain (List.mem_reverse.1 mem)
  rw [lastSegment, untilColons_eq_self plain', List.reverse_reverse]

/-! ## Arguments -/

/-- A character that the scanner of arguments passes over. -/
def isPlain (c : Char) : Bool :=
  c != '<' && c != '>' && c != ','

/-- A text in which each bracket that opens a list is closed again. Commas stand inside lists only,
unless the whole text stands inside one. -/
inductive Paired : Bool → List Char → Prop where
  | nil {inside : Bool} : Paired inside []
  | char {inside : Bool} {c : Char} {s : List Char} (opens : c ≠ '<') (closes : c ≠ '>')
      (separates : c = ',' → inside = true) (rest : Paired inside s) : Paired inside (c :: s)
  | list {inside : Bool} {a s : List Char} (arguments : Paired true a) (rest : Paired inside s) :
      Paired inside ('<' :: a ++ '>' :: s)

namespace Paired

variable {inside : Bool} {a b s : List Char}

/-- Joined texts close their brackets where both do. -/
lemma append (paired : Paired inside a) (paired' : Paired inside b) : Paired inside (a ++ b) := by
  induction paired with
  | nil => exact paired'
  | char opens closes separates _ ih => exact .char opens closes separates (ih paired')
  | @list _ x y arguments _ _ ih =>
    rw [List.append_assoc, List.cons_append]
    exact .list arguments (ih paired')

/-- A text that closes its brackets does so inside a list. -/
lemma inList (paired : Paired inside a) : Paired true a := by
  induction paired with
  | nil => exact .nil
  | char opens closes _ _ ih => exact .char opens closes (fun _ => rfl) ih
  | list arguments _ _ ih => exact .list arguments ih

/-- A text without brackets and commas. -/
lemma of_plain (plain : s.all isPlain = true) : Paired inside s := by
  induction s with
  | nil => exact .nil
  | cons c s ih =>
    rw [List.all_cons, Bool.and_eq_true] at plain
    obtain ⟨first, rest⟩ := plain
    simp only [isPlain, Bool.and_eq_true, bne_iff_ne] at first
    exact .char first.1.1 first.1.2 (absurd · first.2) (ih rest)

/-- The scanner passes over the text, and is at the same depth behind it. -/
lemma argument?_append (paired : Paired inside a) {depth : Nat} (deep : inside = true → 0 < depth)
    (rest : List Char) :
    argument? depth (a ++ rest) = (argument? depth rest).map (a ++ ·) := by
  induction paired generalizing depth rest with
  | nil => exact (Option.map_id' ..).symm
  | @char inside c s opens closes separates _ ih =>
    have passed : ¬ (depth = 0 ∧ (c = '>' ∨ c = ',')) := by
      rintro ⟨outside, closing | comma⟩
      · exact closes closing
      · exact absurd outside (Nat.pos_iff_ne_zero.1 (deep (separates comma)))
    have same : depthAfter depth c = depth := by rw [depthAfter, if_neg opens, if_neg closes]
    rw [List.cons_append, argument?, if_neg passed, same, ih deep, Option.map_map]
    rfl
  -- one deeper inside the list, and back at the bracket that closes it
  | @list inside x y _ _ ih ih' =>
    have opened : ¬ (depth = 0 ∧ ('<' = '>' ∨ '<' = ',')) := fun h => absurd h.2 (by decide)
    have closed : ¬ (depth + 1 = 0 ∧ ('>' = '>' ∨ '>' = ',')) := fun h => absurd h.1 (by omega)
    have deeper : depthAfter depth '<' = depth + 1 := rfl
    have back : depthAfter (depth + 1) '>' = depth := rfl
    calc argument? depth ('<' :: x ++ '>' :: y ++ rest)
      _ = argument? depth ('<' :: (x ++ '>' :: (y ++ rest))) := by simp
      _ = (argument? (depth + 1) (x ++ '>' :: (y ++ rest))).map ('<' :: ·) := by
        rw [argument?, if_neg opened, deeper]
      _ = ((argument? (depth + 1) ('>' :: (y ++ rest))).map (x ++ ·)).map ('<' :: ·) := by
        rw [ih fun _ => Nat.succ_pos depth]
      _ = ((((argument? depth rest).map (y ++ ·)).map ('>' :: ·)).map (x ++ ·)).map ('<' :: ·) := by
        rw [argument?, if_neg closed, back, ih' deep]
      _ = (argument? depth rest).map ('<' :: x ++ '>' :: y ++ ·) := by
        simp only [Option.map_map]
        congr 1
        funext z
        simp

/-- The first argument of a list is found whole, whatever stands behind it from a comma or a bracket
on. -/
lemma argument?_eq (paired : Paired false a) {more : List Char}
    (cut : ∀ c ∈ more.head?, c = '>' ∨ c = ',') (rest : List Char) :
    argument? 0 (a ++ more ++ '>' :: rest) = some a := by
  have found (c : Char) (ends : c = '>' ∨ c = ',') (s : List Char) :
      argument? 0 (a ++ c :: s) = some a := by
    rw [paired.argument?_append (by simp), argument?, if_pos ⟨rfl, ends⟩, Option.map_some,
      List.append_nil]
  rw [List.append_assoc]
  cases more with
  | nil => exact found '>' (.inl rfl) rest
  | cons c more => exact found c (cut c rfl) (more ++ '>' :: rest)

end Paired

/-! ## Classes -/

/-- Nothing, or a list of arguments with what stands behind it. -/
def Opening (s : List Char) : Prop :=
  ∀ c ∈ s.head?, c = '<'

section Classes

variable {name path s : List Char} (bare : mainTrait (dereference name) = path ++ s)
  (plain : '<' ∉ path) (opening : Opening s)

include plain opening in
/-- A text is cut where its list of arguments opens. -/
lemma cut_at_list : (path ++ s).takeWhile (· != '<') = path ∧
    (path ++ s).dropWhile (· != '<') = s := by
  have before := bne_of_mem plain
  rw [List.takeWhile_append_of_pos before, List.dropWhile_append_of_pos before]
  cases s with
  | nil => exact ⟨List.append_nil path, rfl⟩
  | cons c s =>
    obtain rfl := opening c rfl
    exact ⟨List.append_nil path, rfl⟩

include bare plain opening in
/-- The class of a name whose path is known, and what stands behind it. -/
lemma classOf_eq : classOf name =
    match argument? 0 s.tail with
    | some inner =>
      if isWrapper (lastSegment path) then classOf (trim inner) else lastSegment path
    | none => lastSegment path := by
  obtain ⟨before, behind⟩ := cut_at_list plain opening
  rw [classOf]
  simp only [bare, before]
  split
  · next inner found =>
    rw [bare, behind] at found
    rw [found]
  · next found =>
    rw [bare, behind] at found
    rw [found]

end Classes

end TypeName

end Metering
