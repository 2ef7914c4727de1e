import Mathlib.Data.List.Basic
import Metering.Proofs.Hub.Reading

/-!
# The order of changes

Where amounts are exact and no gauge is overridden, it does not matter in which order an instrument
is changed (`Instrument.apply_comm`), so that the touches of one meter may come in any order
(`Touch.foldl_after_perm`).
-/

namespace Metering

/-- The larger of two durations, and a third. -/
lemma Timer.longest_comm (a b c : UInt64) :
    (if (if a < b then b else a) < c then c else if a < b then b else a) =
      if (if a < c then c else a) < b then b else if a < c then c else a := by
  grind

/-- Two durations may be recorded in either order. -/
lemma Timer.record_comm (t : Timer) (m n : Nat) : (t.record m).record n = (t.record n).record m := by
  simp only [record, Timer.mk.injEq, true_and]
  exact ⟨add_right_comm .., longest_comm ..⟩

/-- Two magnitudes may be recorded in either order. -/
lemma Summary.record_comm (s : Summary ℚ) (a b : ℚ) :
    (s.record a).record b = (s.record b).record a := by
  simp only [record, Amount.isFinite, if_true, Amount.larger_eq_max, Summary.mk.injEq, true_and]
  exact ⟨add_right_comm .., max_right_comm ..⟩

namespace Instrument

variable {i j : Instrument ℚ} {c c' : Change ℚ}

/-- Counters and gauges are told by their amounts. -/
lemma eq_of_amount (kind : i.kind = j.kind) (amount : i.amount = j.amount)
    (is : i.kind = .counter ∨ i.kind = .gauge) : i = j := by
  cases i with
  | counter value =>
    cases j with
    | counter value' => exact congrArg counter amount
    | gauge | timer | summary => cases kind
  | gauge value =>
    cases j with
    | gauge value' => exact congrArg gauge amount
    | counter | timer | summary => cases kind
  | timer => rcases is with is | is <;> cases is
  | summary => rcases is with is | is <;> cases is

/-- Changes that override no gauge may come in either order. -/
theorem apply_comm (i : Instrument ℚ) (settled : c.isAssign = false)
    (settled' : c'.isAssign = false) : (i.apply c).apply c' = (i.apply c').apply c := by
  have amount : ((i.apply c).apply c').amount = ((i.apply c').apply c).amount := by
    rw [amount_apply _ settled', amount_apply _ settled, amount_apply _ settled,
      amount_apply _ settled', kind_apply, kind_apply, add_right_comm]
  have kind : ((i.apply c).apply c').kind = ((i.apply c').apply c).kind := by
    simp only [kind_apply]
  cases i with
  | counter value => exact eq_of_amount kind amount (.inl (by simp only [kind_apply]; rfl))
  | gauge value => exact eq_of_amount kind amount (.inr (by simp only [kind_apply]; rfl))
  | timer state =>
    cases c <;> cases c' <;> try rfl
    exact congrArg timer (state.record_comm ..)
  | summary state =>
    cases c <;> cases c' <;> try rfl
    exact congrArg summary (state.record_comm ..)

end Instrument

/-- Touches of one meter that override no gauge may come in any order. -/
theorem Touch.foldl_after_perm {ts us : List (Touch ℚ)} (perm : ts.Perm us)
    (kinds : ∀ t ∈ ts, ∀ u ∈ ts, t.kind = u.kind)
    (settled : ∀ t ∈ ts, t.change.isAssign = false) (state : Option (Instrument ℚ)) :
    ts.foldl Touch.after state = us.foldl Touch.after state := by
  refine perm.foldl_eq' (fun t mem u mem' state => ?_) state
  have comm := Instrument.apply_comm (state.getD (.fresh t.kind)) (settled u mem') (settled t mem)
  rw [Touch.after, Touch.after, Touch.after, Touch.after, Option.getD_some, Option.getD_some,
    kinds u mem' t mem, comm]

end Metering
