import Mathlib.Tactic.Lemma
import Metering.Proofs.Hub.Access
import Metering.Proofs.Number.Text
import Metering.Label.Policy

/-!
# Labels

What can be read back from labels: a number from its digits, from an address the host and the port,
and from an identity the values of the labels that a policy has laid out.
-/

namespace Metering

/-- Different numbers have different texts. -/
lemma Number.natText_injective : Function.Injective natText :=
  fun m n same => by
    rw [← Nat.ofDigitChars_ten_toDigits (n := m), ← Nat.ofDigitChars_ten_toDigits (n := n)]
    exact congrArg (Nat.ofDigitChars 10 · 0) same

/-- Status codes are told apart by their texts. -/
lemma Number.codeText_inj (status status' : UInt16) :
    String.ofList (natText status.toNat) = String.ofList (natText status'.toNat) ↔
      status = status' := by
  rw [String.ofList_inj, natText_injective.eq_iff, UInt16.toNat_inj]

namespace Label

/-- A text is cut at its last colon in one way. -/
lemma append_colon_inj {s s' t t' : List Char} (plain : ':' ∉ t) (plain' : ':' ∉ t') :
    s ++ ':' :: t = s' ++ ':' :: t' ↔ s = s' ∧ t = t' := by
  constructor
  · intro same
    -- what one cut leaves more than the other would have a colon behind the cut
    obtain ⟨a, rfl, behind⟩ | ⟨a, rfl, behind⟩ := List.append_eq_append_iff.1 same
    · cases a with
      | nil => simpa using behind
      | cons c a =>
        obtain ⟨-, rfl⟩ := List.cons.inj behind
        exact absurd (by simp) plain
    · cases a with
      | nil => simpa [eq_comm] using behind
      | cons c a =>
        obtain ⟨-, rfl⟩ := List.cons.inj behind
        exact absurd (by simp) plain'
  · rintro ⟨rfl, rfl⟩
    rfl

/-- Addresses are the same if and only if the ports and the hosts are, an unknown host being read as
a question mark. -/
lemma ofAddress_eq_iff {host host' : Option String} {port port' : UInt16} :
    ofAddress host port = ofAddress host' port' ↔
      port = port' ∧ host.getD "?" = host'.getD "?" := by
  have letters (host : Option String) (port : UInt16) : (ofAddress host port).toList =
      (host.getD "?").toList ++ ':' :: Number.natText port.toNat := by
    simp [ofAddress, unknown]
  have plain (n : ℕ) : ':' ∉ Number.natText n := fun mem =>
    absurd (Number.isDigit_of_mem_natText mem) (by decide)
  rw [← String.toList_inj, letters, letters, append_colon_inj (plain _) (plain _),
    String.toList_inj, Number.natText_injective.eq_iff, UInt16.toNat_inj, and_comm]

end Label

namespace LabelSet

variable {labels labels' : LabelSet} {l l' r r' : String} {keys extra extra' : List String}

/-- A label policy gives one value for each key. -/
lemma length_values (size : extra.length = keys.length) :
    (labels.values l r extra).length = (labels.keys keys).length := by
  cases labels with
  | mk hasRemote => cases hasRemote <;> simp [values, LabelSet.keys, size]

/-- Values tell what the layout is. -/
lemma eq_of_values_eq (size : extra.length = extra'.length)
    (same : labels.values l r extra = labels'.values l' r' extra') : labels = labels' := by
  cases labels with
  | mk hasRemote =>
    cases labels' with
    | mk hasRemote' =>
      have lengths := congrArg List.length same
      cases hasRemote <;> cases hasRemote' <;> simp [values, size] at lengths ⊢

/-- Values are the same if and only if those of the connection and all others are. -/
lemma values_eq_iff (size : extra.length = extra'.length) :
    labels.values l r extra = labels'.values l' r' extra' ↔
      labels.values l r [] = labels'.values l' r' [] ∧ extra = extra' := by
  constructor
  · intro same
    obtain rfl := eq_of_values_eq size same
    cases labels with
    | mk hasRemote => cases hasRemote <;> simp_all [values]
  · rintro ⟨base, rfl⟩
    obtain rfl := eq_of_values_eq rfl base
    cases labels with
    | mk hasRemote => cases hasRemote <;> simp_all [values]

/-- Identities of one name with laid out labels are the same if and only if the values are. -/
lemma ofLabels_eq_iff (name : String) (size : extra.length = keys.length)
    (size' : extra'.length = keys.length) :
    MeterId.ofLabels name (labels.keys keys) (labels.values l r extra) =
        MeterId.ofLabels name (labels'.keys keys) (labels'.values l' r' extra') ↔
      labels.values l r extra = labels'.values l' r' extra' := by
  constructor
  · intro same
    rw [← MeterId.values_ofLabels name (length_values size).le, same,
      MeterId.values_ofLabels name (length_values size').le]
  · intro same
    rw [same, eq_of_values_eq (size.trans size'.symm) same]

end LabelSet

end Metering
