import Mathlib.Data.List.Forall2
import Metering.Proofs.Hub.Reading

/-!
# Summaries

What a summary shows after a run in which its meter only ever records counts: it exists if and only
if something was recorded, and shows how many counts there were, their sum and the largest
(`Hub.Sound.stateOf_summary`).
-/

namespace Metering

namespace Summary

/-- The summary of some counts. -/
def ofCounts (counts : List ℕ) : Summary ℚ where
  count := UInt64.ofNat counts.length
  total := counts.sum
  largest := counts.max?.getD 0

/-- The meter that records some counts, which does not exist before the first one. -/
def meter? (counts : List ℕ) : Option (Instrument ℚ) :=
  if counts = [] then none else some (.summary (ofCounts counts))

/-- There is a summary if something was recorded. -/
lemma isSome_meter? (counts : List ℕ) : (meter? counts).isSome ↔ counts ≠ [] := by
  by_cases none_ : counts = [] <;> simp [meter?, none_]

/-- The maximum grows with a number that is added. -/
lemma getD_max?_concat (counts : List ℕ) (n : ℕ) :
    (counts ++ [n]).max?.getD 0 = max (counts.max?.getD 0) n := by
  cases counts with
  | nil => exact (Nat.zero_max n).symm
  | cons first rest =>
    rw [List.cons_append, List.max?_cons', List.max?_cons', List.foldl_append]
    rfl

/-- One more count is recorded. -/
lemma record_ofCounts (counts : List ℕ) (n : ℕ) :
    (ofCounts counts).record (n : ℚ) = ofCounts (counts ++ [n]) := by
  have larger (m : ℕ) : Amount.larger (m : ℚ) (n : ℚ) = (max m n : ℕ) := by
    rw [Amount.larger_eq_max, Nat.mono_cast.map_max]
  simp [ofCounts, record, Amount.isFinite, larger, getD_max?_concat]

/-- One more number is recorded in the summary. -/
lemma apply_meter? (counts : List ℕ) (n : ℕ) :
    some (((meter? counts).getD (.fresh .summary)).apply (.observe (n : ℚ))) =
      meter? (counts ++ [n]) := by
  have before : (meter? counts).getD (.fresh .summary) = .summary (ofCounts counts) := by
    cases counts <;> rfl
  rw [before, meter?, if_neg (by simp), ← record_ofCounts]
  rfl

end Summary

/-- A touch that records a count with a summary. -/
structure Touch.Records (t : Touch ℚ) (count : ℕ) : Prop where
  kind : t.kind = .summary
  change : t.change = .observe (count : ℚ)

/-- Touches that record numbers come to the summary of these. -/
lemma Touch.foldl_after_of_records {ts : List (Touch ℚ)} {counts : List ℕ}
    (records : List.Forall₂ Touch.Records ts counts) :
    ts.foldl Touch.after none = Summary.meter? counts := by
  -- from any counts that were recorded before
  have run (before : List ℕ) :
      ts.foldl Touch.after (Summary.meter? before) = Summary.meter? (before ++ counts) := by
    induction records generalizing before with
    | nil => rw [List.append_nil]; rfl
    | @cons t n ts counts first rest ih =>
      have after : Touch.after (Summary.meter? before) t = Summary.meter? (before ++ [n]) := by
        rw [Touch.after, first.kind, first.change, Summary.apply_meter?]
      rw [List.foldl_cons, after, ih, List.append_assoc]
      rfl
  exact run []

/-- Over a run in which the touches of a meter record at most one count with each event, the meter
shows the counts. -/
theorem Hub.Sound.stateOf_summary {ε : Type} {h : Hub ℚ} {F : Set Family} {R : Set RegistryRef}
    (sound : h.Sound F R) (apart : Family.Apart F) (concordant : Family.Concordant F)
    {r : RegistryRef} {id : MeterId} (missing : h.stateOf r id = none)
    {touches : ε → List (Touch ℚ)} {count? : ε → Option ℕ} {run : List ε}
    (members : ∀ t ∈ run.flatMap touches, t.family ∈ F ∧ t.registry ∈ R)
    (each : ∀ e ∈ run, List.Forall₂ Touch.Records
      ((touches e).filter fun t => r = t.registry ∧ id = t.id) (count? e).toList) :
    (h.perform (run.flatMap touches)).stateOf r id = Summary.meter? (run.filterMap count?) := by
  rw [sound.stateOf_perform apart concordant members, missing]
  refine Touch.foldl_after_of_records ?_
  clear members
  induction run with
  | nil => exact .nil
  | cons e run ih =>
    have first := each e (List.mem_cons_self ..)
    have rest := ih fun e' mem => each e' (List.mem_cons_of_mem e mem)
    rw [List.flatMap_cons, List.filter_append, List.filterMap_cons]
    cases counted : count? e with
    | none =>
      rw [counted] at first
      exact List.rel_append first rest
    | some n =>
      rw [counted] at first
      exact List.rel_append first rest

end Metering
