import Mathlib.Algebra.Group.Nat.Defs
import Mathlib.Tactic.Lemma
import Metering.Amount

/-!
# Counts as doubles

The double nearest to a 64-bit count is finite (`isFinite_ofCount`). Rounding changes a mantissa and
an exponent by little, so that the exponent of the result stays far below that of infinity.
-/

namespace Metering.Number

open Float.Model Float.Model.UnpackedFloat

/-! ## Shifts -/

/-- The accuracy does not change the mantissa. -/
lemma mantissa_ofMantissaAndAccuracy (m : Nat) (a : Accuracy) :
    (ExtendedMantissa.ofMantissaAndAccuracy m a).mantissa = m := by
  unfold ExtendedMantissa.ofMantissaAndAccuracy
  split <;> rfl

/-- A shift to the right makes no mantissa larger. -/
lemma mantissa_shiftRight_le (em : ExtendedMantissa) (n : Nat) :
    (em >>> n).mantissa ≤ em.mantissa := by
  change (n.repeat ExtendedMantissa.shiftRightOne em).mantissa ≤ em.mantissa
  induction n with
  | zero => exact Nat.le_refl _
  | succ n ih => exact Nat.le_trans (Nat.div_le_self ..) ih

/-- Rounding adds at most one. -/
lemma roundedMantissa_le (em : ExtendedMantissa) : em.roundedMantissa ≤ em.mantissa + 1 := by
  unfold ExtendedMantissa.roundedMantissa Accuracy.roundToNearestEven
  split <;> omega

/-- A shift to the target lowers the mantissa and raises the exponent to the target at most. -/
lemma shiftToTargetExponent_le (spec : Format) (m : Nat) (e : Int) (a : Accuracy) :
    (shiftToTargetExponent spec m e a).1.mantissa ≤ m ∧
      (shiftToTargetExponent spec m e a).2 =
        max e (spec.targetExponent (totalExponent m e)) := by
  constructor
  · have le := mantissa_shiftRight_le (ExtendedMantissa.ofMantissaAndAccuracy m a)
      (spec.targetExponent (totalExponent m e) - e).toNat
    rwa [mantissa_ofMantissaAndAccuracy] at le
  · change e + ((spec.targetExponent (totalExponent m e) - e).toNat : Int) = _
    omega

/-! ## Exponents -/

/-- A number whose exponent is not above some limit. Zero has none. -/
def ExponentLE (limit : Int) : UnpackedFloat → Prop
  | .zero _ => True
  | .finite _ _ e _ => e ≤ limit
  | _ => False

/-- The target exponent of a mantissa of some number of bits. -/
lemma targetExponent_le {m bits : Nat} (small : m < 2 ^ bits) (e : Int) :
    Format.binary64.targetExponent (totalExponent m e) ≤ max (bits + e - 52) (-1074) := by
  have log : m.log2 ≤ bits := by
    rcases Nat.eq_zero_or_pos m with rfl | pos
    · exact Nat.zero_le _
    · exact Nat.le_of_lt ((Nat.log2_lt (Nat.ne_of_gt pos)).2 small)
  have minExponent : Format.binary64.minExponent = -1074 := by decide
  have mantissaBits : Format.binary64.mantissaBits = 53 := rfl
  rw [Format.targetExponent, totalExponent, minExponent, mantissaBits]
  omega

/-- A bound on the exponent is kept where zero is set apart. -/
lemma exponentLE_of_le {limit e : Int} (le : e ≤ limit) (s : Sign) (m : Nat) :
    ExponentLE limit (if h : m = 0 then .zero s else .finite s m e (Nat.pos_of_ne_zero h)) := by
  cases m with
  | zero => trivial
  | succ m => exact le

/-- Rounding a mantissa of some number of bits raises the exponent by little. -/
lemma roundWithAccuracy_exponentLE (s : Sign) {m bits : Nat} (small : m < 2 ^ bits) {e : Int}
    (range : -52 ≤ e ∧ e ≤ 0) (a : Accuracy) :
    ExponentLE (2 * bits) (roundWithAccuracy .binary64 s m e a) := by
  obtain ⟨mantissa₁, exponent₁⟩ := shiftToTargetExponent_le .binary64 m e a
  have target₁ := targetExponent_le small e
  unfold roundWithAccuracy
  generalize shiftToTargetExponent .binary64 m e a = first at mantissa₁ exponent₁ ⊢
  obtain ⟨em₁, e₁⟩ := first
  have rounded : em₁.roundedMantissa < 2 ^ (bits + 1) := by
    have le := roundedMantissa_le em₁
    have pow : 2 ^ (bits + 1) = 2 * 2 ^ bits := Nat.pow_succ'
    simp only at mantissa₁
    omega
  obtain ⟨-, exponent₂⟩ := shiftToTargetExponent_le .binary64 em₁.roundedMantissa e₁ .exact
  have target₂ := targetExponent_le rounded e₁
  simp only at exponent₁
  have le : (shiftToTargetExponent .binary64 em₁.roundedMantissa e₁ .exact).2 ≤ 2 * bits := by
    rw [exponent₂]
    omega
  exact exponentLE_of_le le s _

/-- A 64-bit number is rounded to a double with an exponent far below that of infinity. -/
lemma round_exponentLE (s : Sign) {m : Nat} (small : m < 2 ^ 64) :
    ExponentLE 232 (UnpackedFloat.round .binary64 s m 0) := by
  have minExponent : Format.binary64.minExponent = -1074 := by decide
  have mantissaBits : Format.binary64.mantissaBits = 53 := rfl
  -- a whole number is shifted to the left by the fraction bits at most
  have target : -52 ≤ Format.binary64.targetExponent (totalExponent m 0) := by
    rw [Format.targetExponent, totalExponent, minExponent, mantissaBits]
    omega
  obtain ⟨places, shift⟩ : ∃ places,
      (0 - Format.binary64.targetExponent (totalExponent m 0)).toNat = places := ⟨_, rfl⟩
  have unfolded : UnpackedFloat.round .binary64 s m 0 =
      roundWithAccuracy .binary64 s (m <<< places) (0 - places) .exact := by
    rw [← shift]
    rfl
  have few : places ≤ 52 := by omega
  have shifted : m <<< places < 2 ^ 116 := by
    rw [Nat.shiftLeft_eq]
    calc m * 2 ^ places
      _ < 2 ^ 64 * 2 ^ places := Nat.mul_lt_mul_of_pos_right small (Nat.two_pow_pos places)
      _ ≤ 2 ^ 64 * 2 ^ 52 := Nat.mul_le_mul_left _ (Nat.pow_le_pow_right (by decide) few)
      _ = 2 ^ 116 := (Nat.pow_add 2 64 52).symm
  have range : -52 ≤ (0 : Int) - places ∧ (0 : Int) - places ≤ 0 := by omega
  have limit : (2 : Int) * (116 : Nat) = 232 := rfl
  rw [unfolded, ← limit]
  exact roundWithAccuracy_exponentLE s shifted range .exact

/-- Whether a double is finite is told by its exponent. -/
lemma isFinite_unpack {b : BitVec Format.binary64.numBits} (finite : unpackExponent b ≠ -1#_) :
    (UnpackedFloat.unpack .binary64 b).isFinite = true := by
  refine (congrArg UnpackedFloat.isFinite (if_neg finite)).trans ?_
  by_cases subnormal : unpackExponent b = 0#_
  · refine (congrArg UnpackedFloat.isFinite (if_pos subnormal)).trans ?_
    by_cases zero : unpackMantissa b = 0#_
    · exact congrArg UnpackedFloat.isFinite (dif_pos zero)
    · exact congrArg UnpackedFloat.isFinite (dif_neg zero)
  · exact congrArg UnpackedFloat.isFinite (if_neg subnormal)

/-- The exponent of a double as it is stored. -/
def biased (e : Int) : Nat :=
  (e + Format.binary64.exponentBias + Format.binary64.mantissaBitsWithoutImplicit).toNat

/-- Small exponents stay below the one of the infinities. -/
lemma biased_lt {e : Int} (small : e ≤ 232) : biased e < 2047 := by
  have bias : Format.binary64.exponentBias = 1023 := by decide
  have fraction : Format.binary64.mantissaBitsWithoutImplicit = 52 := rfl
  rw [biased, bias, fraction]
  omega

/-- A finite number with a small exponent is packed with its mantissa. -/
lemma pack_finite (s : Sign) {m : Nat} {e : Int} (positive : 0 < m) (small : biased e < 2047) :
    UnpackedFloat.pack .binary64 (.finite s m e positive) =
      if m.log2 + 1 = Format.binary64.mantissaBits then
        packComponents .binary64 s (BitVec.ofNat _ (biased e)) (BitVec.ofNat _ m)
      else packComponents .binary64 s 0 (BitVec.ofNat _ m) :=
  if_neg (Nat.not_le_of_gt (Nat.succ_lt_succ small))

/-- A number with a small exponent is packed into a finite double. -/
lemma isFinite_unpack_pack {x : UnpackedFloat} (small : ExponentLE 232 x) :
    (UnpackedFloat.unpack .binary64 (UnpackedFloat.pack .binary64 x)).isFinite = true := by
  refine isFinite_unpack ?_
  cases x with
  | zero s =>
    change unpackExponent (packComponents .binary64 s 0 0) ≠ _
    rw [unpackExponent_packComponents]
    decide
  | finite s m e positive =>
    have stored : biased e < 2047 := biased_lt small
    rw [pack_finite s positive stored]
    split
    · rw [unpackExponent_packComponents]
      intro same
      have value := congrArg BitVec.toNat same
      rw [BitVec.toNat_ofNat, Nat.mod_eq_of_lt (Nat.lt_trans stored (by decide))] at value
      have largest : (-1#11).toNat = 2047 := rfl
      rw [largest] at value
      exact Nat.ne_of_lt stored value
    · rw [unpackExponent_packComponents]
      decide
  | infinity => cases small
  | notANumber => cases small

/-- The double nearest to a 64-bit count is finite. -/
theorem isFinite_ofCount (n : UInt64) : Amount.isFinite (Amount.ofCount n : Float) = true := by
  have nearest : ExponentLE 232 (UnpackedFloat.ofUInt64 .binary64 n) := by
    unfold UnpackedFloat.ofUInt64 UnpackedFloat.ofNat UnpackedFloat.ofInt
      UnpackedFloat.normalize
    split
    · exact round_exponentLE .negative (by omega)
    · trivial
    · exact round_exponentLE .positive n.toNat_lt
  exact isFinite_unpack_pack nearest

end Metering.Number
