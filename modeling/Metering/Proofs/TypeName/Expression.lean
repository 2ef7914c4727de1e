import Mathlib.Data.List.Basic
import Metering.Proofs.TypeName.Path

/-!
# Type expressions

The names of types that are built of paths, references, type arguments and trait objects, as they
are written. Their class is that of the path they come down to when references and wrappers are
looked through (`errorClass_text`), however deep their arguments are nested.
-/

namespace Metering

namespace TypeName

open Text

/-! ## What types are written of -/

/-- The path of a trait. None is named like a wrapper. -/
structure TraitPath where
  path : Path
  no_wrapper : ¬path.name.Wraps

/-- How many references a type stands behind, and whether the last one is mutable. -/
inductive Reference where
  | direct
  | behind (more : Nat) (isMutable : Bool)

def Reference.text : Reference → List Char
  | .direct => []
  | behind more isMutable =>
    List.replicate (more + 1) '&' ++ if isMutable then "mut ".toList else []

mutual

inductive TypeExpr where
  /-- A path with type arguments, if there are any. -/
  | named (reference : Reference) (path : Path) (arguments : List TypeExpr)
  /-- A trait object: a trait with its arguments, and further traits. -/
  | object (reference : Reference) (trait : TraitPath) (arguments : List TypeExpr)
    (more : List Bound)

/-- A further trait of a trait object. -/
inductive Bound where
  | mk (trait : TraitPath) (arguments : List TypeExpr)

end

mutual

def TypeExpr.text : TypeExpr → List Char
  | .named reference path arguments => reference.text ++ (path.text ++ listText arguments)
  | .object reference trait arguments more =>
    reference.text ++ ("dyn ".toList ++ (trait.path.text ++ listText arguments ++ boundsText more))

/-- How a list of arguments is written. -/
def listText : List TypeExpr → List Char
  | [] => []
  | t :: more => '<' :: (t.text ++ moreText more) ++ ['>']

/-- How the arguments behind the first one are written. -/
def moreText : List TypeExpr → List Char
  | [] => []
  | t :: more => ", ".toList ++ t.text ++ moreText more

/-- How the further traits of a trait object are written. -/
def boundsText : List Bound → List Char
  | [] => []
  | .mk trait arguments :: more =>
    " + ".toList ++ (trait.path.text ++ listText arguments) ++ boundsText more

end

/-- The class of a type: the last identifier of its path, that of the first trait of a trait object,
and the class of what a wrapper holds. -/
def TypeExpr.className : TypeExpr → List Char
  | .named _ path [] => path.name.text
  | .named _ path (t :: _) => if path.name.Wraps then t.className else path.name.text
  | .object _ trait _ _ => trait.path.name.text

/-! ## What precedes a path -/

/-- The signs of a reference are taken off in front of a text that starts with none. -/
lemma Reference.dereference_append (r : Reference) {s : List Char}
    (first : ∀ c ∈ s.head?, c ≠ '&' ∧ isBlank c = false)
    (no_sign : strip? "mut ".toList s = none) : dereference (r.text ++ s) = s := by
  cases r with
  | direct =>
    have referent := dereference_replicate 0 first
    rwa [no_sign] at referent
  | behind more isMutable =>
    cases isMutable with
    | false =>
      rw [Reference.text, if_neg Bool.false_ne_true, List.append_nil,
        dereference_replicate _ first, no_sign]
      rfl
    | true =>
      rw [Reference.text, if_pos rfl, List.append_assoc, dereference_replicate _ (by simp; decide),
        TypeName.strip?_append]
      rfl

/-- The signs of a reference are taken off in front of a path. -/
lemma Path.dereference_append (p : Path) (r : Reference) {s : List Char} (opening : Opening s) :
    dereference (r.text ++ (p.text ++ s)) = p.text ++ s :=
  r.dereference_append p.first_append (p.strip?_append opening (by decide) (by decide))

/-- Of a trait object the path of its first trait is left, and maybe arguments. -/
lemma Path.mainTrait_object (p : Path) (s : List Char) :
    mainTrait ("dyn ".toList ++ (p.text ++ s)) = p.text ++ trimEnd (firstBound s) := by
  have bound : firstBound (p.text ++ s) = p.text ++ firstBound s :=
    firstBound_append (p.not_mem rfl) s
  rw [mainTrait, TypeName.strip?_append]
  simp only [bound, trim]
  rw [trimStart_eq_self fun c mem => (p.first_append c mem).2]
  exact trimEnd_append p.isBlank_of_last (firstBound s)

/-! ## What stands behind a path -/

/-- The text of a list of arguments opens with a bracket or is empty. -/
lemma opening_listText (arguments : List TypeExpr) : Opening (listText arguments) := by
  cases arguments with
  | nil => exact nofun
  | cons t more => simp [Opening, listText]

/-- An opening without its end blanks is still one. -/
lemma Opening.trimEnd {s : List Char} (opening : Opening s) : Opening (trimEnd s) := by
  cases s with
  | nil => exact opening
  | cons c s =>
    obtain rfl := opening c rfl
    have kept : Text.trimEnd ('<' :: s) = '<' :: Text.trimEnd s :=
      trimEnd_append (a := ['<']) (by simp; decide) s
    simp [Opening, kept]

/-- The first plus sign between two spaces stands behind the first trait, or in its arguments. -/
lemma opening_firstBound (arguments : List TypeExpr) (more : List Bound) :
    Opening (firstBound (listText arguments ++ boundsText more)) := by
  cases arguments with
  | cons t rest => simp [Opening, listText, firstBound]
  | nil =>
    cases more with
    | nil => simp [Opening, listText, boundsText, firstBound]
    | cons b more =>
      obtain ⟨trait, arguments⟩ := b
      simp [Opening, listText, boundsText, firstBound]

/-! ## Arguments -/

/-- A path has no brackets or commas. -/
lemma Path.paired (p : Path) : Paired false p.text := by
  refine .of_plain (List.all_eq_true.2 fun c mem => ?_)
  have ne {d : Char} (other : inPath d = false) : (c != d) = true :=
    bne_iff_ne.2 (ne_of_inPath (p.inPath_of_mem mem) other)
  rw [isPlain, ne rfl, ne rfl, ne rfl]
  rfl

/-- The signs of a reference have no brackets or commas. -/
lemma Reference.paired (r : Reference) : Paired false r.text := by
  cases r with
  | direct => exact .nil
  | behind more isMutable =>
    refine Paired.append (.of_plain (List.all_eq_true.2 fun c mem => ?_)) ?_
    · rw [List.eq_of_mem_replicate mem]
      rfl
    · cases isMutable with
      | false => exact .nil
      | true => exact .of_plain rfl

mutual

/-- The brackets in the name of a type are paired, and each comma stands between two of them. -/
theorem TypeExpr.paired : (t : TypeExpr) → Paired false t.text
  | .named reference path arguments =>
    reference.paired.append (path.paired.append (paired_listText arguments))
  | .object reference trait arguments more =>
    have dyn : Paired false "dyn ".toList := .of_plain rfl
    reference.paired.append (dyn.append
      ((trait.path.paired.append (paired_listText arguments)).append (paired_boundsText more)))

/-- The text of a list of arguments closes its brackets. -/
theorem paired_listText : (arguments : List TypeExpr) → Paired false (listText arguments)
  | [] => .nil
  | t :: more => .list (t.paired.inList.append (paired_moreText more)) .nil

/-- The text of further arguments closes its brackets, inside a list. -/
theorem paired_moreText : (arguments : List TypeExpr) → Paired true (moreText arguments)
  | [] => .nil
  | t :: more =>
    have comma : Paired true ", ".toList :=
      .char (by decide) (by decide) (fun _ => rfl) (.of_plain rfl)
    (comma.append t.paired.inList).append (paired_moreText more)

/-- The text of further bounds closes its brackets. -/
theorem paired_boundsText : (more : List Bound) → Paired false (boundsText more)
  | [] => .nil
  | .mk trait arguments :: more =>
    have plus : Paired false " + ".toList := .of_plain rfl
    (plus.append (trait.path.paired.append (paired_listText arguments))).append
      (paired_boundsText more)

end

/-- Behind the first argument of a list stands a comma, or nothing. -/
lemma head_moreText (more : List TypeExpr) : ∀ c ∈ (moreText more).head?, c = '>' ∨ c = ',' := by
  cases more with
  | nil => exact nofun
  | cons t more => simp [moreText]

/-! ## Beginnings and ends -/

/-- The signs of a reference do not start with a blank. -/
lemma Reference.isBlank_of_head (r : Reference) {s : List Char}
    (first : ∀ c ∈ s.head?, isBlank c = false) : ∀ c ∈ (r.text ++ s).head?, isBlank c = false := by
  cases r with
  | direct => exact first
  | behind more isMutable =>
    intro c mem
    obtain rfl : '&' = c := Option.some.inj mem
    rfl

/-- A path with arguments does not end with a blank. -/
lemma Path.isBlank_of_last_list (p : Path) (arguments : List TypeExpr) :
    ∀ c ∈ (p.text ++ listText arguments).getLast?, isBlank c = false := by
  cases arguments with
  | nil =>
    rw [listText, List.append_nil]
    exact p.isBlank_of_last
  | cons t more =>
    rw [listText, ← List.append_assoc, List.getLast?_concat]
    intro c mem
    obtain rfl : '>' = c := Option.some.inj mem
    rfl

/-- Further bounds do not end with a blank. -/
lemma isBlank_of_last_bounds {s : List Char} (last : ∀ c ∈ s.getLast?, isBlank c = false)
    (more : List Bound) : ∀ c ∈ (s ++ boundsText more).getLast?, isBlank c = false := by
  induction more generalizing s with
  | nil => rwa [boundsText, List.append_nil]
  | cons b more ih =>
    obtain ⟨trait, arguments⟩ := b
    rw [boundsText, ← List.append_assoc]
    refine ih ?_
    rw [← List.append_assoc, List.getLast?_append_of_ne_nil _ trait.path.append_ne_nil]
    exact trait.path.isBlank_of_last_list arguments

/-- The name of a type neither begins nor ends with a blank. -/
lemma TypeExpr.trim_text (t : TypeExpr) : trim t.text = t.text := by
  cases t with
  | named reference path arguments =>
    refine trim_eq_self (reference.isBlank_of_head fun c mem => (path.first_append c mem).2) ?_
    rw [text, List.getLast?_append_of_ne_nil _ path.append_ne_nil]
    exact path.isBlank_of_last_list arguments
  | object reference trait arguments more =>
    refine trim_eq_self (reference.isBlank_of_head ?_) ?_
    · simp; decide
    · have behind : trait.path.text ++ listText arguments ++ boundsText more ≠ [] := by
        rw [List.append_assoc]
        exact trait.path.append_ne_nil
      rw [text, ← List.append_assoc, List.getLast?_append_of_ne_nil _ behind]
      exact isBlank_of_last_bounds (trait.path.isBlank_of_last_list arguments) more

/-! ## The class of a type -/

/-- By recursion on the type: behind a wrapper its first argument is read as a name of its own. -/
theorem classOf_text : (t : TypeExpr) → classOf t.text = t.className
  | .named reference path [] => by
    refine path.classOf_of_path ?_
    rw [TypeExpr.text, path.dereference_append reference (opening_listText []),
      path.mainTrait_append (opening_listText []), listText, List.append_nil]
  | .named reference path (t :: more) => by
    have bare : mainTrait (dereference (TypeExpr.named reference path (t :: more)).text) =
        path.text ++ '<' :: (t.text ++ moreText more ++ ['>']) := by
      rw [TypeExpr.text, path.dereference_append reference (opening_listText (t :: more)),
        path.mainTrait_append (opening_listText (t :: more)), listText, List.cons_append]
    rw [TypeExpr.className]
    split
    case isTrue wraps =>
      rw [path.classOf_of_wrapper bare t.paired (head_moreText more) wraps, t.trim_text,
        classOf_text t]
    case isFalse no_wrapper =>
      exact path.classOf_of_no_wrapper bare (by simp [Opening]) no_wrapper
  | .object reference trait arguments more => by
    have first (s : List Char) : ∀ c ∈ ("dyn ".toList ++ s).head?, c ≠ '&' ∧ isBlank c = false := by
      simp; decide
    refine trait.path.classOf_of_no_wrapper ?_ (opening_firstBound arguments more).trimEnd
      trait.no_wrapper
    rw [TypeExpr.text, reference.dereference_append (first _) rfl, List.append_assoc,
      trait.path.mainTrait_object]

/-- The class of a type, however it is nested, is that of the path its name comes down to. -/
theorem errorClass_text (t : TypeExpr) :
    errorClass (String.ofList t.text) = String.ofList t.className := by
  rw [errorClass, String.toList_ofList, t.trim_text, classOf_text]

example : errorClass "&mut alloc::boxed::Box<dyn app::Fail<alloc::vec::Vec<u8>, u8> + app::Log>" =
    "Fail" := by decide +kernel

end TypeName

end Metering
