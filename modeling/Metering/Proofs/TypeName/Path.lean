import Metering.Proofs.TypeName.Scanning

/-!
# Paths in names of types

Identifiers and the paths that are joined of them. Nothing in front of a path is taken for a
reference or a trait object (`Path.bare_append`), and its class depends on what stands behind it only
if its last identifier is a wrapper (`Path.classOf_of_path`, `Path.classOf_of_no_wrapper`,
`Path.classOf_of_wrapper`).
-/

namespace Metering

namespace TypeName

open Text

/-! ## Letters -/

/-- A letter, a digit or an underscore. Beyond ASCII every character counts that is no blank. -/
def isLetter (c : Char) : Bool :=
  if c.toNat < 0x80 then c.isAlphanum || c == '_' else !isBlank c

/-- The characters of which paths are written. -/
def inPath (c : Char) : Bool :=
  isLetter c || c == ':'

/-- No letter is a blank. -/
lemma isBlank_of_isLetter {c : Char} (letter : isLetter c = true) : isBlank c = false := by
  by_cases low : c.toNat < 0x80
  · have none : ∀ n < 0x80, isLetter (Char.ofNat n) = true → isBlank (Char.ofNat n) = false := by
      decide
    have found := none c.toNat low
    rw [Char.ofNat_toNat] at found
    exact found letter
  · rw [isLetter, if_neg low] at letter
    exact Bool.not_eq_eq_eq_not.1 letter

/-- No character of a path is a blank. -/
lemma isBlank_of_inPath {c : Char} (mem : inPath c = true) : isBlank c = false := by
  obtain letter | colon := Bool.or_eq_true_iff.1 mem
  · exact isBlank_of_isLetter letter
  · obtain rfl := beq_iff_eq.1 colon
    rfl

/-- The characters of a path are none of the others. -/
lemma ne_of_inPath {c d : Char} (mem : inPath c = true) (other : inPath d = false) : c ≠ d := by
  rintro rfl
  exact Bool.eq_false_iff.1 other mem

/-! ## Identifiers and paths -/

structure Identifier where
  text : List Char
  ne_nil : text ≠ []
  letters : text.all isLetter = true

/-- Whether an identifier is the name of a smart pointer, which is looked through. -/
def Identifier.Wraps (i : Identifier) : Prop :=
  i.text = "Box".toList ∨ i.text = "Arc".toList ∨ i.text = "Rc".toList

instance (i : Identifier) : Decidable i.Wraps :=
  inferInstanceAs (Decidable (_ ∨ _ ∨ _))

/-- Identifiers, all but the last one those of modules. -/
structure Path where
  modules : List Identifier
  name : Identifier

/-- Modules, colons behind each. -/
def modulesText (modules : List Identifier) : List Char :=
  modules.flatMap fun i => i.text ++ "::".toList

def Path.text (p : Path) : List Char :=
  modulesText p.modules ++ p.name.text

/-- The smart pointers are the wrappers that report their argument. -/
lemma Identifier.isWrapper_eq (i : Identifier) : isWrapper i.text = decide i.Wraps := by
  rw [Bool.eq_iff_iff, decide_eq_true_iff]
  simp [isWrapper, Wraps, or_assoc]

/-- An identifier has no colon. -/
lemma Identifier.colon_not_mem (i : Identifier) : ':' ∉ i.text :=
  fun mem => absurd (List.all_eq_true.1 i.letters ':' mem) (by decide)

namespace Path

variable (p : Path) {s : List Char}

/-- All characters of a path's text may stand in a path. -/
lemma inPath_of_mem {c : Char} (mem : c ∈ p.text) : inPath c = true := by
  have of_identifier {i : Identifier} (mem : c ∈ i.text) : inPath c = true :=
    Bool.or_eq_true_iff.2 (.inl (List.all_eq_true.1 i.letters c mem))
  obtain mem | mem := List.mem_append.1 mem
  · obtain ⟨i, -, mem⟩ := List.mem_flatMap.1 mem
    obtain mem | mem := List.mem_append.1 mem
    · exact of_identifier mem
    · obtain rfl : c = ':' := by simpa using mem
      rfl
  · exact of_identifier mem

/-- Other characters do not stand in a path's text. -/
lemma not_mem {c : Char} (other : inPath c = false) : c ∉ p.text :=
  fun mem => ne_of_inPath (p.inPath_of_mem mem) other rfl

/-- A path has text. -/
lemma text_ne_nil : p.text ≠ [] :=
  List.append_ne_nil_of_right_ne_nil _ p.name.ne_nil

/-- A path with something behind it has text. -/
lemma append_ne_nil : p.text ++ s ≠ [] :=
  List.append_ne_nil_of_left_ne_nil p.text_ne_nil s

/-- The last segment of a path is its name. -/
lemma lastSegment_text : lastSegment p.text = p.name.text := by
  obtain ⟨modules, name⟩ := p
  obtain rfl | ⟨before, i, rfl⟩ := List.eq_nil_or_concat modules
  · exact lastSegment_eq_self name.colon_not_mem
  · have text : Path.text ⟨before.concat i, name⟩ =
        modulesText before ++ i.text ++ "::".toList ++ name.text := by
      simp [Path.text, modulesText]
    rw [text]
    exact lastSegment_append name.colon_not_mem _

/-- Neither a reference nor a blank is looked through in front of a path. -/
lemma first_append : ∀ c ∈ (p.text ++ s).head?, c ≠ '&' ∧ isBlank c = false := by
  intro c mem
  rw [List.head?_append, List.head?_eq_some_head p.text_ne_nil] at mem
  obtain rfl := Option.some.inj mem
  have mem := p.inPath_of_mem (List.head_mem p.text_ne_nil)
  exact ⟨ne_of_inPath mem rfl, isBlank_of_inPath mem⟩

/-- A path does not end with a blank. -/
lemma isBlank_of_last : ∀ c ∈ p.text.getLast?, isBlank c = false :=
  fun _ mem => isBlank_of_inPath (p.inPath_of_mem (List.mem_of_getLast? mem))

section Opening

variable (opening : Opening s)

include opening

/-- A path is cut off at the bracket behind it. -/
lemma takeWhile_append : (p.text ++ s).takeWhile (· != '<') = p.text :=
  (cut_at_list (p.not_mem rfl) opening).1

/-- No sign of a reference or of a trait object stands in a path. -/
lemma strip?_append {w : List Char} (plain : '<' ∉ w) (blank : ' ' ∈ w) :
    strip? w (p.text ++ s) = none := by
  refine strip?_eq_none plain blank ?_
  rw [p.takeWhile_append opening]
  exact p.not_mem rfl

/-- In front of a path no sign of a trait object is taken off. -/
lemma mainTrait_append : mainTrait (p.text ++ s) = p.text ++ s := by
  rw [mainTrait, p.strip?_append opening (by decide) (by decide)]

/-- Nothing is looked through in front of a path. -/
lemma bare_append : mainTrait (dereference (p.text ++ s)) = p.text ++ s := by
  have referent := dereference_replicate 0 (p.first_append (s := s))
  rw [p.strip?_append opening (by decide) (by decide)] at referent
  exact (congrArg mainTrait referent).trans (p.mainTrait_append opening)

end Opening

/-! ## Classes of paths -/

section Classes

variable {name a more : List Char}

/-- A path without arguments is named by its last identifier. -/
lemma classOf_of_path (bare : mainTrait (dereference name) = p.text) :
    classOf name = p.name.text := by
  rw [← List.append_nil p.text] at bare
  rw [classOf_eq bare (p.not_mem rfl) (by simp [Opening])]
  exact p.lastSegment_text

/-- So is any path that is no wrapper, whatever its arguments are. -/
lemma classOf_of_no_wrapper (bare : mainTrait (dereference name) = p.text ++ s)
    (opening : Opening s) (no_wrapper : ¬p.name.Wraps) :
    classOf name = p.name.text := by
  rw [classOf_eq bare (p.not_mem rfl) opening, p.lastSegment_text, p.name.isWrapper_eq,
    decide_eq_false no_wrapper]
  split <;> rfl

/-- A wrapper is named like its first argument. -/
lemma classOf_of_wrapper
    (bare : mainTrait (dereference name) = p.text ++ '<' :: (a ++ more ++ '>' :: s))
    (paired : Paired false a) (cut : ∀ c ∈ more.head?, c = '>' ∨ c = ',')
    (wraps : p.name.Wraps) : classOf name = classOf (trim a) := by
  have found : argument? 0 ('<' :: (a ++ more ++ '>' :: s)).tail = some a :=
    paired.argument?_eq cut s
  rw [classOf_eq bare (p.not_mem rfl) (by simp [Opening]), found, p.lastSegment_text]
  exact if_pos (p.name.isWrapper_eq.trans (decide_eq_true wraps))

end Classes

end Path

end TypeName

end Metering
