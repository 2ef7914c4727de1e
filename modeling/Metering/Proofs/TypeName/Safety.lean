import Metering.Proofs.Text.Edge
import Metering.Proofs.TypeName.Scanning

/-!
# Classes of any text

The search for a class, on texts that name no type as well: brackets may be unpaired, and nothing
else is assumed either. Its two loops are given as relations, the outer one that looks through
wrappers (`Visits`) and the inner one that scans for an argument (`Reads`, whose depth is an integer
that could fall below zero). Each round of the outer loop shortens the text, cuts it at edges of
characters, and keeps the depth at zero or above (`safeRound`). Main statement: `errorClass_safe`.
-/

namespace Metering

namespace TypeName

open Text

/-! ## Pieces -/

/-- Trimming gives a piece of the text. -/
lemma trim_isInfix (s : List Char) : trim s <:+: s := by
  have start : trimStart s <:+ s := List.dropWhile_suffix _
  have stop : trim s <+: trimStart s := by
    have reversed : (trimStart s).reverse.dropWhile isBlank <:+ (trimStart s).reverse :=
      List.dropWhile_suffix _
    rwa [← List.reverse_prefix, List.reverse_reverse] at reversed
  exact stop.isInfix.trans start.isInfix

/-- The first bound is the beginning of the text. -/
lemma firstBound_isPrefix (s : List Char) : firstBound s <+: s := by
  induction s using firstBound.induct with
  | case1 => exact List.prefix_rfl
  | case2 rest => exact List.nil_prefix
  | case3 c rest other ih =>
    rw [firstBound.eq_3 c rest other]
    exact List.cons_prefix_cons.2 ⟨rfl, ih⟩

/-- Taking off signs of references gives the end of the name. -/
lemma dereference_isSuffix (name : List Char) : dereference name <:+ name := by
  have referent : trimStart (name.dropWhile (· == '&')) <:+ name :=
    (List.dropWhile_suffix _).trans (List.dropWhile_suffix _)
  rw [dereference]
  cases found : strip? "mut ".toList (trimStart (name.dropWhile (· == '&'))) with
  | none => exact referent
  | some rest =>
    refine List.IsSuffix.trans ?_ referent
    rw [strip?_eq_some_iff.1 found]
    exact List.suffix_append ..

/-- The main trait is a piece of the name. -/
lemma mainTrait_isInfix (name : List Char) : mainTrait name <:+: name := by
  rw [mainTrait]
  split
  · next traits found =>
    have behind : traits <:+ name := by
      rw [strip?_eq_some_iff.1 found]
      exact List.suffix_append ..
    exact (trim_isInfix _).trans ((firstBound_isPrefix traits).isInfix.trans behind.isInfix)
  · exact List.infix_rfl

/-- What stands before the first two colons is the beginning of the text. -/
lemma untilColons_isPrefix (s : List Char) : untilColons s <+: s := by
  induction s using untilColons.induct with
  | case1 => exact List.prefix_rfl
  | case2 rest => exact List.nil_prefix
  | case3 c rest other ih =>
    rw [untilColons.eq_3 c rest other]
    exact List.cons_prefix_cons.2 ⟨rfl, ih⟩

/-- The last segment is the end of the path. -/
lemma lastSegment_isSuffix (path : List Char) : lastSegment path <:+ path := by
  rw [← List.reverse_prefix, lastSegment, List.reverse_reverse]
  exact untilColons_isPrefix path.reverse

/-- No pair of colons is left. -/
lemma colons_untilColons (s : List Char) : ¬ [':', ':'] <:+: untilColons s := by
  induction s using untilColons.induct with
  | case1 => simp [untilColons]
  | case2 rest => simp [untilColons]
  | case3 c rest other ih =>
    rw [untilColons.eq_3 c rest other, List.infix_cons_iff, not_or, List.cons_prefix_cons]
    refine ⟨?_, ih⟩
    rintro ⟨rfl, colon⟩
    -- a second colon would be that of the text itself
    obtain ⟨more, same⟩ := colon.trans (untilColons_isPrefix rest)
    exact other more rfl same.symm

/-- The last segment has no two colons. -/
lemma colons_lastSegment (path : List Char) : ¬ [':', ':'] <:+: lastSegment path := by
  rw [← List.reverse_infix, lastSegment, List.reverse_reverse]
  exact colons_untilColons path.reverse

/-! ## Scanning for an argument -/

/-- What the scanner of arguments has read, and its depth then. It stops at a comma or at a bracket
that closes the list, both at depth zero. -/
inductive Reads (arguments : List Char) : List Char → ℤ → Prop where
  | start : Reads arguments [] 0
  | opens {before : List Char} {depth : ℤ} (read : Reads arguments before depth)
      (next : before ++ ['<'] <+: arguments) : Reads arguments (before ++ ['<']) (depth + 1)
  | closes {before : List Char} {depth : ℤ} (read : Reads arguments before depth)
      (next : before ++ ['>'] <+: arguments) (inside : depth ≠ 0) :
      Reads arguments (before ++ ['>']) (depth - 1)
  | passes {before : List Char} {depth : ℤ} {c : Char} (read : Reads arguments before depth)
      (next : before ++ [c] <+: arguments) (no_open : c ≠ '<') (no_close : c ≠ '>')
      (inside : c = ',' → depth ≠ 0) : Reads arguments (before ++ [c]) depth

/-- The first argument ends before a comma or a closing bracket. -/
def Ends (arguments inner : List Char) : Prop :=
  ∃ c, (c = '>' ∨ c = ',') ∧ inner ++ [c] <+: arguments

namespace Reads

variable {arguments before : List Char} {depth : ℤ}

/-- What the scanner has read is the beginning of the arguments. -/
lemma isPrefix (read : Reads arguments before depth) : before <+: arguments := by
  cases read with
  | start => exact List.nil_prefix
  | opens _ next => exact next
  | closes _ next => exact next
  | passes _ next => exact next

/-- The depth never falls below zero, since it is lowered inside a list only. -/
lemma nonneg (read : Reads arguments before depth) : 0 ≤ depth := by
  induction read with
  | start => exact le_rfl
  | opens _ _ ih => omega
  | closes _ _ inside ih => omega
  | passes _ _ _ _ _ ih => exact ih

/-- It is the number of lists that are open. -/
lemma eq_count (read : Reads arguments before depth) :
    depth = before.count '<' - before.count '>' := by
  induction read with
  | start => rfl
  | opens _ _ ih =>
    simp [ih]
    omega
  | closes _ _ _ ih =>
    simp [ih]
    omega
  | passes _ _ no_open no_close _ ih => simp [ih, no_open, no_close]

/-- The scanner reads a character at which it does not stop. -/
lemma step {d : ℕ} {c : Char} (read : Reads arguments before d) (next : before ++ [c] <+: arguments)
    (passed : ¬ (d = 0 ∧ (c = '>' ∨ c = ','))) :
    Reads arguments (before ++ [c]) (depthAfter d c) := by
  by_cases opening : c = '<'
  · subst opening
    exact read.opens next
  by_cases closing : c = '>'
  · subst closing
    have inside : d ≠ 0 := fun outside => passed ⟨outside, .inl rfl⟩
    have lowered : ((depthAfter d '>' : ℕ) : ℤ) = d - 1 := by
      have deep : depthAfter d '>' = d - 1 := rfl
      omega
    rw [lowered]
    exact read.closes next (by omega)
  · have same : depthAfter d c = d := by rw [depthAfter, if_neg opening, if_neg closing]
    rw [same]
    refine read.passes next opening closing fun comma outside => ?_
    exact passed ⟨by omega, .inr comma⟩

/-- What the scanner does with the rest: it reads up to the end of an argument, or all of it. -/
lemma finish {d : ℕ} {rest : List Char} (read : Reads arguments before d)
    (split : arguments = before ++ rest) :
    match argument? d rest with
    | some inner => Reads arguments (before ++ inner) 0 ∧ Ends arguments (before ++ inner)
    | none => ∃ depth, Reads arguments arguments depth := by
  induction rest generalizing before d with
  | nil =>
    rw [List.append_nil] at split
    exact ⟨d, split ▸ read⟩
  | cons c rest ih =>
    have further : before ++ c :: rest = before ++ [c] ++ rest := by simp
    have next : before ++ [c] <+: arguments := ⟨rest, by rw [split, further]⟩
    -- as the scanner decides: this character ends the argument, or one more is read
    by_cases stops : d = 0 ∧ (c = '>' ∨ c = ',')
    · rw [argument?, if_pos stops]
      obtain ⟨rfl, ends⟩ := stops
      simp only [List.append_nil]
      exact ⟨read, c, ends, next⟩
    · have rest_read := ih (read.step next stops) (split.trans further)
      rw [argument?, if_neg stops]
      cases found : argument? (depthAfter d c) rest with
      | none =>
        rw [found] at rest_read
        exact rest_read
      | some inner =>
        rw [found] at rest_read
        simpa using rest_read

/-- The scanner finds what it finds from any point on its way. -/
lemma argument?_eq (read : Reads arguments before depth) :
    ∀ rest, arguments = before ++ rest →
      argument? 0 arguments =
        (argument? depth.toNat rest).map (before ++ ·) := by
  -- reading one more character, whichever it is
  have further {before : List Char} {depth depth' : ℤ} {c : Char}
      (ih : ∀ rest, arguments = before ++ rest → argument? 0 arguments =
        (argument? depth.toNat rest).map (before ++ ·))
      (passed : ¬ (depth.toNat = 0 ∧ (c = '>' ∨ c = ',')))
      (deep : depthAfter depth.toNat c = depth'.toNat) (rest : List Char)
      (split : arguments = before ++ [c] ++ rest) : argument? 0 arguments =
        (argument? depth'.toNat rest).map (before ++ [c] ++ ·) := by
    rw [ih (c :: rest) (by rw [split, List.append_assoc]; rfl), argument?, if_neg passed,
      deep, Option.map_map]
    congr 1
    funext inner
    simp
  induction read with
  | start =>
    rintro rest rfl
    exact (Option.map_id' ..).symm
  | @opens before depth read next ih =>
    have above := read.nonneg
    refine further ih (by simp) ?_
    rw [depthAfter, if_pos rfl]
    omega
  | @closes before depth read next inside ih =>
    have above := read.nonneg
    refine further ih (by omega) ?_
    rw [depthAfter, if_neg (by decide), if_pos rfl]
    omega
  | @passes before depth c read next no_open no_close inside ih =>
    have above := read.nonneg
    refine further ih ?_ (by rw [depthAfter, if_neg no_open, if_neg no_close])
    rintro ⟨outside, closing | comma⟩
    · exact no_close closing
    · have deep := inside comma
      omega

end Reads

/-- The scanner finds an argument where it stops. -/
lemma argument?_eq_some_iff {arguments inner : List Char} :
    argument? 0 arguments = some inner ↔ Reads arguments inner 0 ∧ Ends arguments inner := by
  constructor
  · intro found
    have whole := (Reads.start : Reads arguments [] (0 : ℕ)).finish rfl
    rw [found] at whole
    exact whole
  · rintro ⟨read, c, ends, rest, split⟩
    rw [List.append_assoc] at split
    rw [read.argument?_eq _ split.symm]
    simp [argument?, ends]

/-- It finds none if it reads to the end. -/
lemma argument?_eq_none_iff {arguments : List Char} :
    argument? 0 arguments = none ↔ ∃ depth, Reads arguments arguments depth := by
  constructor
  · intro found
    have whole := (Reads.start : Reads arguments [] (0 : ℕ)).finish rfl
    rw [found] at whole
    exact whole
  · rintro ⟨depth, read⟩
    rw [read.argument?_eq [] (List.append_nil _).symm]
    rfl

/-! ## Looking through wrappers -/

/-- A name without what precedes its path. -/
def bare (name : List Char) : List Char :=
  mainTrait (dereference name)

/-- What stands before the first bracket of a name. -/
def pathOf (name : List Char) : List Char :=
  (bare name).takeWhile (· != '<')

/-- What stands behind it. -/
def argumentsOf (name : List Char) : List Char :=
  ((bare name).dropWhile (· != '<')).tail

/-- What a wrapper holds, and the next round of the search looks at. -/
def next? (name : List Char) : Option (List Char) :=
  if isWrapper (lastSegment (pathOf name)) then (argument? 0 (argumentsOf name)).map trim else none

/-- The names that the search looks at, with the number of rounds before. -/
inductive Visits (first : List Char) : ℕ → List Char → Prop where
  | start : Visits first 0 first
  | next {n : ℕ} {name inner : List Char} (visit : Visits first n name)
      (holds : next? name = some inner) : Visits first (n + 1) inner

/-- The search goes on inside a wrapper and otherwise takes the last segment. -/
lemma classOf_eq_next (name : List Char) : classOf name =
    match next? name with
    | some inner => classOf inner
    | none => lastSegment (pathOf name) := by
  rw [classOf, next?]
  split
  · next inner found =>
    have found' : argument? 0 (argumentsOf name) = some inner := found
    rw [found']
    by_cases wraps : isWrapper (lastSegment (pathOf name)) = true
    · rw [if_pos wraps]
      exact if_pos wraps
    · rw [if_neg wraps]
      exact if_neg wraps
  · next found =>
    have found' : argument? 0 (argumentsOf name) = none := found
    rw [found', Option.map_none, ite_self]
    rfl

/-- The bare name is a piece of the name. -/
lemma bare_isInfix (name : List Char) : bare name <:+: name :=
  (mainTrait_isInfix _).trans (dereference_isSuffix name).isInfix

/-- The path is the beginning of the bare name. -/
lemma pathOf_isPrefix (name : List Char) : pathOf name <+: bare name :=
  List.takeWhile_prefix _

/-- The path has no bracket. -/
lemma bracket_not_mem_pathOf (name : List Char) : '<' ∉ pathOf name :=
  fun mem => absurd (List.all_eq_true.1 List.all_takeWhile '<' mem) (by decide)

/-- A name with a bracket is cut in front of the first one and behind it. -/
lemma bare_eq {name : List Char} (bracket : '<' ∈ bare name) :
    bare name = pathOf name ++ ['<'] ++ argumentsOf name := by
  have whole := List.takeWhile_append_dropWhile (p := (· != '<')) (l := bare name)
  cases behind : (bare name).dropWhile (· != '<') with
  | nil =>
    rw [behind, List.append_nil] at whole
    rw [← whole] at bracket
    exact absurd bracket (bracket_not_mem_pathOf name)
  | cons c rest =>
    have first := List.head_dropWhile_not (· != '<')
      (ne_of_eq_of_ne behind (List.cons_ne_nil c rest))
    simp only [behind, List.head_cons] at first
    obtain rfl : c = '<' := by simpa using first
    rw [behind] at whole
    rw [argumentsOf, behind, List.append_assoc]
    exact whole.symm

/-- The next name is the trimmed first argument. -/
lemma next?_eq_some {name inner : List Char} (holds : next? name = some inner) :
    ∃ argument, argument? 0 (argumentsOf name) = some argument ∧ inner = trim argument := by
  rw [next?] at holds
  split at holds
  · obtain ⟨argument, found, rfl⟩ := Option.map_eq_some_iff.1 holds
    exact ⟨argument, found, rfl⟩
  · exact nomatch holds

/-! ## Rounds -/

/-- What can go wrong in a round, and does not. -/
structure SafeRound (name : List Char) : Prop where
  /-- What precedes the path is cut off at an edge of a character. -/
  bare_slice : ∃ i j, Slice name (bare name) i j
  /-- The path ends at the first bracket, -/
  path_slice : Slice (bare name) (pathOf name) 0 (utf8 (pathOf name)).length
  /-- and the arguments begin one byte further. -/
  arguments_slice : '<' ∈ bare name → Slice (bare name) (argumentsOf name)
    ((utf8 (pathOf name)).length + 1) (utf8 (bare name)).length
  /-- The scanner never lowers a depth of zero. -/
  depth {before : List Char} {depth : ℤ} : Reads (argumentsOf name) before depth →
    0 ≤ depth ∧ depth = before.count '<' - before.count '>'
  /-- The first argument is what the scanner has read when it stops, if it does. -/
  found_iff {argument : List Char} : argument? 0 (argumentsOf name) = some argument ↔
    Reads (argumentsOf name) argument 0 ∧ Ends (argumentsOf name) argument
  none_iff : argument? 0 (argumentsOf name) = none ↔
    ∃ depth, Reads (argumentsOf name) (argumentsOf name) depth
  /-- It is cut off at an edge, and trimmed at two. -/
  argument_slice {argument : List Char} : argument? 0 (argumentsOf name) = some argument →
    Slice (argumentsOf name) argument 0 (utf8 argument).length ∧
      ∃ i j, Slice argument (trim argument) i j
  segment_slice :
    ∃ i, Slice (pathOf name) (lastSegment (pathOf name)) i (utf8 (pathOf name)).length
  /-- What a wrapper holds is shorter than the name. -/
  shorter {inner : List Char} : next? name = some inner → inner.length < name.length
  inner_slice {inner : List Char} : next? name = some inner → ∃ i j, Slice name inner i j

/-- A beginning is a slice from the start. -/
lemma slice_of_isPrefix {s piece : List Char} (isPrefix : piece <+: s) :
    Slice s piece 0 (utf8 piece).length := by
  obtain ⟨rest, rfl⟩ := isPrefix
  exact .of_append [] piece rest

/-- An end is a slice up to the end. -/
lemma slice_of_isSuffix {s piece : List Char} (isSuffix : piece <:+ s) :
    ∃ i, Slice s piece i (utf8 s).length := by
  obtain ⟨before, rfl⟩ := isSuffix
  have slice := Slice.of_append before piece []
  rw [List.append_nil] at slice
  exact ⟨_, slice⟩

/-- An argument is the beginning of the arguments. -/
lemma isPrefix_of_argument? {arguments argument : List Char}
    (found : argument? 0 arguments = some argument) : argument <+: arguments :=
  (argument?_eq_some_iff.1 found).1.isPrefix

/-- The arguments are the end of the bare name. -/
lemma argumentsOf_isSuffix (name : List Char) : argumentsOf name <:+ bare name :=
  (List.tail_suffix _).trans (List.dropWhile_suffix _)

/-- The next name is a piece of the name. -/
lemma next?_isInfix {name inner : List Char} (holds : next? name = some inner) :
    inner <:+: name := by
  obtain ⟨argument, found, rfl⟩ := next?_eq_some holds
  calc trim argument
    _ <:+: argument := trim_isInfix argument
    _ <:+: argumentsOf name := (isPrefix_of_argument? found).isInfix
    _ <:+: bare name := (argumentsOf_isSuffix name).isInfix
    _ <:+: name := bare_isInfix name

/-- The next name is shorter, which bounds the rounds of the search. -/
lemma length_next? {name inner : List Char} (holds : next? name = some inner) :
    inner.length < name.length := by
  obtain ⟨argument, found, rfl⟩ := next?_eq_some holds
  calc (trim argument).length
    _ ≤ argument.length := length_trim argument
    _ < (argumentsOf name).length := length_argument? found
    _ ≤ (bare name).length := (argumentsOf_isSuffix name).length_le
    _ ≤ name.length := (bare_isInfix name).length_le

/-- No round fails, whatever the text. -/
theorem safeRound (name : List Char) : SafeRound name where
  bare_slice := Slice.of_isInfix (bare_isInfix name)
  path_slice := slice_of_isPrefix (pathOf_isPrefix name)
  arguments_slice bracket := by
    have cut := bare_eq bracket
    have slice := Slice.of_append (pathOf name ++ ['<']) (argumentsOf name) []
    rw [List.append_nil, ← cut, utf8_append, List.length_append] at slice
    exact slice
  depth read := ⟨read.nonneg, read.eq_count⟩
  found_iff := argument?_eq_some_iff
  none_iff := argument?_eq_none_iff
  argument_slice found :=
    ⟨slice_of_isPrefix (isPrefix_of_argument? found), Slice.of_isInfix (trim_isInfix _)⟩
  segment_slice := slice_of_isSuffix (lastSegment_isSuffix _)
  shorter := length_next?
  inner_slice holds := Slice.of_isInfix (next?_isInfix holds)

/-! ## The search -/

namespace Visits

variable {first name : List Char} {n : ℕ}

/-- Every round takes a character at least. -/
lemma length_le (visit : Visits first n name) : n + name.length ≤ first.length := by
  induction visit with
  | start => exact (Nat.zero_add _).le
  | next _ holds ih =>
    have shorter := length_next? holds
    omega

/-- Every name that the search looks at is a piece of the first one. -/
lemma isInfix (visit : Visits first n name) : name <:+: first := by
  induction visit with
  | start => exact List.infix_rfl
  | next _ holds ih => exact (next?_isInfix holds).trans ih

/-- From every name the search comes to its last one, which has the class. By induction on the
length of the name. -/
lemma exists_last {first : List Char} : {n : ℕ} → {name : List Char} → Visits first n name →
    ∃ m last, Visits first m last ∧ next? last = none ∧
      classOf name = lastSegment (pathOf last) := by
  intro n name visit
  cases holds : next? name with
  | none =>
    refine ⟨n, name, visit, holds, ?_⟩
    rw [classOf_eq_next, holds]
  | some inner =>
    have shorter := length_next? holds
    obtain ⟨m, last, visit', ends, same⟩ := exists_last (visit.next holds)
    refine ⟨m, last, visit', ends, ?_⟩
    rw [classOf_eq_next, holds]
    exact same
termination_by _ name => name.length

end Visits

/-- The search for the class of any text ends after no more rounds than the text has characters, none
of which fails. The class is a piece of the text, without a pair of colons and without a bracket that
opens a list. -/
theorem errorClass_safe (s : String) :
    (∀ n name, Visits (trim s.toList) n name →
      n ≤ s.toList.length ∧ (∃ i j, Slice s.toList name i j) ∧ SafeRound name) ∧
    (∃ n last, Visits (trim s.toList) n last ∧ next? last = none ∧
      (errorClass s).toList = lastSegment (pathOf last)) ∧
    (∃ i j, Slice s.toList (errorClass s).toList i j) ∧ (errorClass s).toList <:+: s.toList ∧
    ¬ "::".toList <:+: (errorClass s).toList ∧ '<' ∉ (errorClass s).toList := by
  obtain ⟨n, last, visit, ends, same⟩ := Visits.exists_last (.start : Visits (trim s.toList) 0 _)
  have reported : (errorClass s).toList = lastSegment (pathOf last) := by
    rw [errorClass, String.toList_ofList, same]
  have piece : lastSegment (pathOf last) <:+: s.toList := by
    calc lastSegment (pathOf last)
      _ <:+: pathOf last := (lastSegment_isSuffix _).isInfix
      _ <:+: bare last := (pathOf_isPrefix last).isInfix
      _ <:+: last := bare_isInfix last
      _ <:+: trim s.toList := visit.isInfix
      _ <:+: s.toList := trim_isInfix s.toList
  rw [reported]
  refine ⟨fun n name visit => ?_, ⟨n, last, visit, ends, rfl⟩, Slice.of_isInfix piece, piece,
    colons_lastSegment _, ?_⟩
  · have few := visit.length_le
    have trimmed := length_trim s.toList
    exact ⟨by omega, Slice.of_isInfix (visit.isInfix.trans (trim_isInfix _)), safeRound name⟩
  · exact fun mem => bracket_not_mem_pathOf last ((lastSegment_isSuffix _).mem mem)

/-- Two wrappers around a trait object, in a text whose brackets are not paired. -/
theorem errorClass_safe_of_unpaired :
    let s := "&Box<Rc<dyn ä::é + Send>, <>> >>::<"
    let inner := "dyn ä::é + Send".toList
    Visits (trim s.toList) 2 inner ∧ SafeRound inner ∧ next? inner = none ∧
      errorClass s = "é" ∧ ∃ i j, Slice s.toList "é".toList i j := by
  intro s inner
  have visit : Visits (trim s.toList) 2 inner := by
    have wrapped : next? (trim s.toList) = some "Rc<dyn ä::é + Send>".toList := by decide +kernel
    have held : next? "Rc<dyn ä::é + Send>".toList = some inner := by decide +kernel
    exact .next (.next .start wrapped) held
  have reported : errorClass s = "é" := by decide +kernel
  obtain ⟨rounds, -, slice, -⟩ := errorClass_safe s
  rw [reported] at slice
  exact ⟨visit, (rounds 2 inner visit).2.2, by decide +kernel, reported, slice⟩

end TypeName

end Metering
