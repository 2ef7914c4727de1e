import Metering.Text.Basic

/-!
# Error classes from type names

The class of an error is the last segment of its type's path, without type arguments. References
are looked through, and so are the wrappers `Box`, `Arc` and `Rc`, which report their argument; a
trait object reports its first trait.
-/

namespace Metering

namespace TypeName

open Metering.Text

/-- The text without a given beginning, if it begins so. -/
def strip? : List Char → List Char → Option (List Char)
  | [], s => some s
  | _ :: _, [] => none
  | p :: ps, c :: s => if p = c then strip? ps s else none

/-- The text up to the first plus sign between two spaces. -/
def firstBound : List Char → List Char
  | [] => []
  | ' ' :: '+' :: ' ' :: _ => []
  | c :: rest => c :: firstBound rest

/-- The text up to the first pair of colons. -/
def untilColons : List Char → List Char
  | [] => []
  | ':' :: ':' :: _ => []
  | c :: rest => c :: untilColons rest

/-- The text after the last pair of colons. -/
def lastSegment (path : List Char) : List Char :=
  (untilColons path.reverse).reverse

/-- The number of lists of type arguments open after a character, if `depth` were open before it. -/
def depthAfter (depth : Nat) (c : Char) : Nat :=
  if c = '<' then depth + 1 else if c = '>' then depth - 1 else depth

/--
What stands before the comma or bracket that ends the first argument of a list of type arguments,
`depth` further lists being open inside it.
-/
def argument? : Nat → List Char → Option (List Char)
  | _, [] => none
  | depth, c :: rest =>
    if depth = 0 ∧ (c = '>' ∨ c = ',') then some []
    else (argument? (depthAfter depth c) rest).map (c :: ·)

/-- The type behind a reference, mutable or not. -/
def dereference (name : List Char) : List Char :=
  let referent := trimStart (name.dropWhile (· == '&'))
  (strip? "mut ".toList referent).getD referent

/-- The first trait of a trait object, any other type as it is. -/
def mainTrait (name : List Char) : List Char :=
  match strip? "dyn ".toList name with
  | some traits => trim (firstBound traits)
  | none => name

/-- The wrappers that report their argument. -/
def isWrapper (segment : List Char) : Bool :=
  segment == "Box".toList || segment == "Arc".toList || segment == "Rc".toList

/-- An argument is shorter than the text that it is read from, since its bracket is left behind. -/
theorem length_argument? {depth : Nat} {s inner : List Char} (h : argument? depth s = some inner) :
    inner.length < s.length := by
  induction s generalizing depth inner with
  | nil => simp [argument?] at h
  | cons c rest ih =>
    rw [argument?] at h
    split at h
    · obtain rfl := Option.some.inj h
      simp
    · obtain ⟨inner, found, rfl⟩ := Option.map_eq_some_iff.1 h
      have := ih found
      simp only [List.length_cons]
      omega

/-- A text does not get longer when its leading blanks are dropped. -/
theorem length_trimStart (s : List Char) : (trimStart s).length ≤ s.length :=
  (List.dropWhile_sublist _).length_le

/-- A text does not get longer when it is trimmed. -/
theorem length_trim (s : List Char) : (trim s).length ≤ s.length := by
  have h := (List.dropWhile_sublist isBlank (l := (trimStart s).reverse)).length_le
  have := length_trimStart s
  simp only [trim, trimEnd, List.length_reverse] at h ⊢
  omega

/-- What is left behind a prefix is no longer than the text. -/
theorem length_strip? {p s rest : List Char} (h : strip? p s = some rest) :
    rest.length ≤ s.length := by
  induction p generalizing s with
  | nil =>
    obtain rfl := Option.some.inj h
    exact Nat.le_refl _
  | cons c p ih =>
    cases s with
    | nil => simp [strip?] at h
    | cons d s =>
      rw [strip?] at h
      split at h
      · have := ih h
        simp only [List.length_cons]
        omega
      · simp at h

/-- The first trait of a trait object is no longer than the object. -/
theorem length_firstBound (s : List Char) : (firstBound s).length ≤ s.length := by
  fun_induction firstBound s <;> simp_all

/-- A name does not get longer when references are looked through. -/
theorem length_dereference (name : List Char) : (dereference name).length ≤ name.length := by
  have h₁ := length_trimStart (name.dropWhile (· == '&'))
  have h₂ := (List.dropWhile_sublist (· == '&') (l := name)).length_le
  simp only [dereference]
  cases h : strip? "mut ".toList (trimStart (name.dropWhile (· == '&'))) with
  | none => simp only [Option.getD_none]; omega
  | some rest =>
    have := length_strip? h
    simp only [Option.getD_some]
    omega

/-- A name does not get longer when a trait object is looked through. -/
theorem length_mainTrait (name : List Char) : (mainTrait name).length ≤ name.length := by
  simp only [mainTrait]
  split
  · rename_i traits h
    have h₁ := length_strip? h
    have h₂ := length_firstBound traits
    have h₃ := length_trim (firstBound traits)
    omega
  · exact Nat.le_refl _

def classOf (name : List Char) : List Char :=
  let bare := mainTrait (dereference name)
  let segment := lastSegment (bare.takeWhile (· != '<'))
  match _found : argument? 0 (bare.dropWhile (· != '<')).tail with
  | some inner => if isWrapper segment then classOf (trim inner) else segment
  | none => segment
termination_by name.length
decreasing_by
  have h₁ := length_argument? _found
  have h₂ := length_trim inner
  have h₃ : bare.length ≤ _ := length_mainTrait (dereference name)
  have h₄ := length_dereference name
  have h₅ := (List.dropWhile_sublist (· != '<') (l := bare)).length_le
  rw [List.length_tail] at h₁
  omega

end TypeName

def errorClass (typeName : String) : String :=
  String.ofList (TypeName.classOf (Text.trim typeName.toList))

end Metering
