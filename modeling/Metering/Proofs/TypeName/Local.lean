import Mathlib.Data.List.Basic
import Metering.Proofs.TypeName.Path

/-!
# Types declared inside methods

The name of a type that is declared inside a method leads through the type whose method it is: with
the arguments of that type, or as `<Type as Trait>` if the method is a trait's. The class is searched
before the first bracket only. So it is that of the type in front of the bracket, that of the first
argument if this type is a wrapper, and empty for a trait's method, whatever the declared type is
called; only if no bracket precedes its own name, that is found (`errorClass_local`).
-/

namespace Metering

namespace TypeName

open Text

/-! ## What the names are written of -/

/-- A segment of a path before the last one. -/
inductive Segment where
  | plain (word : Identifier)
  /-- With arguments, of which nothing is assumed. -/
  | generic (word : Identifier) (arguments : List Char) (no_wrapper : ¬word.Wraps)
  /-- A wrapper with its first argument and what stands behind that. An arrow cuts the argument like
  a comma, since it ends in a bracket. -/
  | wrapper (word : Identifier) (first more : List Char) (wraps : word.Wraps)
    (paired : Paired false first) (cut : ∀ c ∈ more.head?, c = '>' ∨ c = ',')

def Segment.text : Segment → List Char
  | plain word => word.text
  | generic word arguments _ => word.text ++ '<' :: (arguments ++ ['>'])
  | wrapper word first more .. => word.text ++ '<' :: (first ++ more ++ ['>'])

/-- Where a path begins: in a module or a type, or in a type that is taken as a trait. -/
inductive Root where
  | segment (s : Segment)
  | qualified (type trait : List Char)

/-- The path of a type that is declared inside a method, with at least two segments. -/
structure LocalPath where
  root : Root
  more : List Segment
  name : Identifier

/-- The segments and the name, colons between them. -/
def joined (name : Identifier) : List Segment → List Char
  | [] => name.text
  | s :: more => s.text ++ "::".toList ++ joined name more

def LocalPath.text (p : LocalPath) : List Char :=
  match p.root with
  | .segment s => joined p.name (s :: p.more)
  | .qualified type trait =>
    '<' :: (type ++ " as ".toList ++ trait ++ ">::".toList) ++ joined p.name p.more

/-- The class that is reported for segments and a name: the first arguments decide. -/
def reportedOf (name : Identifier) : List Segment → String
  | [] => String.ofList name.text
  | .plain _ :: more => reportedOf name more
  | .generic word _ _ :: _ => String.ofList word.text
  | .wrapper _ first _ _ _ _ :: _ => errorClass (String.ofList first)

def LocalPath.reported (p : LocalPath) : String :=
  match p.root with
  | .segment s => reportedOf p.name (s :: p.more)
  | .qualified _ _ => ""

/-! ## The reported class -/

/-- By induction on the segments: the plain ones among them become modules of the path that is read
before the first bracket. -/
lemma classOf_joined (name : Identifier) (segments : List Segment) (before : List Identifier) :
    String.ofList (classOf (modulesText before ++ joined name segments)) =
      reportedOf name segments := by
  -- on the segments; those before have become modules
  induction segments generalizing before with
  | nil =>
    have bare := Path.bare_append ⟨before, name⟩ (s := []) nofun
    rw [List.append_nil] at bare
    exact congrArg String.ofList (Path.classOf_of_path _ bare)
  | cons s more ih =>
    cases s with
    | plain word =>
      have text : modulesText before ++ joined name (.plain word :: more) =
          modulesText (before ++ [word]) ++ joined name more := by
        simp [joined, Segment.text, modulesText]
      rw [text, ih, reportedOf]
    | generic word arguments no_wrapper =>
      have text : modulesText before ++ joined name (.generic word arguments no_wrapper :: more) =
          Path.text ⟨before, word⟩ ++
            '<' :: (arguments ++ '>' :: ("::".toList ++ joined name more)) := by
        simp [joined, Segment.text, Path.text]
      rw [text]
      have opening : Opening ('<' :: (arguments ++ '>' :: ("::".toList ++ joined name more))) := by
        simp [Opening]
      exact congrArg String.ofList
        (Path.classOf_of_no_wrapper _ (Path.bare_append _ opening) opening no_wrapper)
    | wrapper word first others wraps paired cut =>
      have text : modulesText before ++
          joined name (.wrapper word first others wraps paired cut :: more) =
          Path.text ⟨before, word⟩ ++
            '<' :: (first ++ others ++ '>' :: ("::".toList ++ joined name more)) := by
        simp [joined, Segment.text, Path.text]
      rw [text, Path.classOf_of_wrapper _ (Path.bare_append _ (by simp [Opening])) paired cut wraps,
        reportedOf, errorClass, String.toList_ofList]

/-- In front of the bracket of a qualified type no path is left. -/
lemma classOf_bracket (s : List Char) : classOf ('<' :: s) = [] := by
  have bare : mainTrait (dereference ('<' :: s)) = [] ++ '<' :: s := rfl
  rw [classOf_eq bare List.not_mem_nil (by simp [Opening])]
  split <;> rfl

/-- The name itself is reported if no segment has arguments. -/
lemma reportedOf_plain {name : Identifier} {segments : List Segment}
    (plain : '<' ∉ joined name segments) : reportedOf name segments = String.ofList name.text := by
  induction segments with
  | nil => rfl
  | cons s more ih =>
    cases s with
    | plain word => exact ih fun mem => plain (List.mem_append_right _ mem)
    | generic word arguments => exact absurd (by simp [joined, Segment.text]) plain
    | wrapper word first others => exact absurd (by simp [joined, Segment.text]) plain

/-- Behind arguments the name does not matter. -/
lemma reportedOf_bracket {name : Identifier} {segments : List Segment}
    (bracket : '<' ∈ joined name segments) (name' : Identifier) :
    reportedOf name' segments = reportedOf name segments := by
  induction segments with
  | nil => exact absurd (List.all_eq_true.1 name.letters '<' bracket) (by decide)
  | cons s more ih =>
    cases s with
    | plain word =>
      obtain before | behind := List.mem_append.1 bracket
      · obtain letter | colon := List.mem_append.1 before
        · exact absurd (List.all_eq_true.1 word.letters '<' letter) (by decide)
        · exact absurd colon (by decide)
      · exact ih behind
    | generic word arguments => rfl
    | wrapper word first others => rfl

/-! ## Beginnings and ends -/

/-- Joined segments do not start with a blank. -/
lemma isBlank_of_head_joined (name : Identifier) (segments : List Segment) :
    ∀ c ∈ (joined name segments).head?, isBlank c = false := by
  have of_word (word : Identifier) (s : List Char) :
      ∀ c ∈ (word.text ++ s).head?, isBlank c = false :=
    fun c mem => (Path.first_append ⟨[], word⟩ c mem).2
  cases segments with
  | nil =>
    have alone := of_word name []
    rwa [List.append_nil] at alone
  | cons s more =>
    rw [joined, List.append_assoc]
    cases s with
    | plain word => exact of_word word _
    | generic word arguments =>
      rw [Segment.text, List.append_assoc]
      exact of_word word _
    | wrapper word first others =>
      rw [Segment.text, List.append_assoc]
      exact of_word word _

/-- Joined segments do not end with a blank. -/
lemma isBlank_of_last_joined (name : Identifier) (segments : List Segment) (s : List Char) :
    ∀ c ∈ (s ++ joined name segments).getLast?, isBlank c = false := by
  induction segments generalizing s with
  | nil =>
    rw [joined, List.getLast?_append_of_ne_nil _ name.ne_nil]
    exact Path.isBlank_of_last ⟨[], name⟩
  | cons segment more ih =>
    rw [joined, ← List.append_assoc]
    exact ih _

/-- A local path has no blanks around it. -/
lemma LocalPath.trim_text (p : LocalPath) : trim p.text = p.text := by
  obtain ⟨root, more, name⟩ := p
  cases root with
  | segment s =>
    exact trim_eq_self (isBlank_of_head_joined name (s :: more))
      (isBlank_of_last_joined name (s :: more) [])
  | qualified type trait =>
    exact trim_eq_self (by simp [LocalPath.text]; decide) (isBlank_of_last_joined name more _)

/-! ## The class of a type declared inside a method -/

lemma errorClass_reported (p : LocalPath) :
    errorClass (String.ofList p.text) = p.reported := by
  rw [errorClass, String.toList_ofList, p.trim_text]
  obtain ⟨root, more, name⟩ := p
  cases root with
  | segment s => exact classOf_joined name (s :: more) []
  | qualified type trait => exact congrArg String.ofList (classOf_bracket _)

/-- What is reported for a type that is declared inside a method: its own name if no bracket precedes
that; otherwise what the first bracket decides, and the name may be any other. -/
theorem errorClass_local (p : LocalPath) :
    errorClass (String.ofList p.text) = p.reported ∧
      ('<' ∉ p.text → errorClass (String.ofList p.text) = String.ofList p.name.text) ∧
      ('<' ∈ p.text → ∀ name : Identifier,
        errorClass (String.ofList { p with name }.text) = errorClass (String.ofList p.text)) := by
  refine ⟨errorClass_reported p, fun plain => ?_, fun bracket name' => ?_⟩
  · rw [errorClass_reported]
    obtain ⟨root, more, name⟩ := p
    cases root with
    | segment s => exact reportedOf_plain plain
    | qualified type trait => exact absurd List.mem_cons_self plain
  · rw [errorClass_reported, errorClass_reported]
    obtain ⟨root, more, name⟩ := p
    cases root with
    | segment s => exact reportedOf_bracket bracket name'
    | qualified type trait => rfl

def load : Segment := .plain ⟨"load".toList, by decide, by decide⟩

def failure : Identifier := ⟨"Failure".toList, by decide, by decide⟩

def timeout : Identifier := ⟨"Timeout".toList, by decide, by decide⟩

/-- The type `Failure` in a function `load` of a module `app`. -/
def moduleFailure : LocalPath :=
  ⟨.segment (.plain ⟨"app".toList, by decide, by decide⟩), [load], failure⟩

/-- The type `Failure` in a method `load` of a type `Store<u8>`. -/
def storeFailure : LocalPath :=
  ⟨.segment (.plain ⟨"app".toList, by decide, by decide⟩),
    [.generic ⟨"Store".toList, by decide, by decide⟩ "u8".toList (by decide), load], failure⟩

/-- The type `Failure` in the method `load` of a trait `Load`, as the type `Store<u8>` has it. -/
def traitFailure : LocalPath :=
  ⟨.qualified "app::Store<u8>".toList "app::Load".toList, [load], failure⟩

theorem errorClass_of_two_failures :
    '<' ∉ moduleFailure.text ∧ errorClass (String.ofList moduleFailure.text) = "Failure" ∧
      '<' ∈ storeFailure.text ∧
      errorClass (String.ofList { storeFailure with name := timeout }.text) =
        errorClass (String.ofList storeFailure.text) :=
  have plain : '<' ∉ moduleFailure.text := by decide
  have bracket : '<' ∈ storeFailure.text := by decide
  ⟨plain, ((errorClass_local moduleFailure).2.1 plain).trans (by decide +kernel), bracket,
    (errorClass_local storeFailure).2.2 bracket timeout⟩

/-- The type's own name is not found behind arguments. -/
theorem not_errorClass_name_of_arguments :
    String.ofList storeFailure.text = "app::Store<u8>::load::Failure" ∧
      errorClass (String.ofList storeFailure.text) = "Store" ∧
      String.ofList traitFailure.text = "<app::Store<u8> as app::Load>::load::Failure" ∧
      errorClass (String.ofList traitFailure.text) = "" := by
  decide +kernel

end TypeName

end Metering
