import Mathlib.Algebra.Order.Group.Multiset
import Mathlib.Algebra.Order.Sub.Basic
import Mathlib.Tactic.Lemma

/-!
# Tokens

Some callbacks make a token, such as a request in progress, that a later callback takes. Tokens are
told apart by their contents only, so that equal ones are counted. In a proper run no token is taken
more often than it was made (`Trade.Proper`).
-/

namespace Metering

/-- The tokens that a callback makes and takes. -/
structure Trade (ε τ : Type) where
  makes : ε → Multiset τ
  takes : ε → Multiset τ

namespace Trade

variable {ε τ : Type} (trade : Trade ε τ)

/-- The number of tokens of some sort. -/
def count (sort : τ → Bool) (tokens : Multiset τ) : ℕ :=
  tokens.countP (sort ·)

/-- The tokens that a run makes. -/
def made : List ε → Multiset τ
  | [] => 0
  | e :: rest => trade.makes e + made rest

/-- The tokens that a run takes. -/
def taken : List ε → Multiset τ
  | [] => 0
  | e :: rest => trade.takes e + taken rest

section Count

variable (sort : τ → Bool)

@[simp] lemma count_zero : count sort 0 = 0 := rfl

@[simp] lemma count_singleton (x : τ) : count sort {x} = if sort x then 1 else 0 := by
  rw [count, ← Multiset.cons_zero, Multiset.countP_cons, Multiset.countP_zero, zero_add]

/-- Two bags together hold what they hold apart. -/
@[simp] lemma count_add (s t : Multiset τ) : count sort (s + t) = count sort s + count sort t :=
  Multiset.countP_add ..

/-- Where each callback makes one token of a sort or none, those that make one are counted. -/
lemma count_made {makes : ε → Bool}
    (each : ∀ e, count sort (trade.makes e) = if makes e then 1 else 0) (run : List ε) :
    count sort (trade.made run) = run.countP makes := by
  induction run with
  | nil => rfl
  | cons e rest ih => rw [made, count_add, ih, each, List.countP_cons, add_comm]

/-- Where each callback takes one token of a sort or none, those that take one are counted. -/
lemma count_taken {takes : ε → Bool}
    (each : ∀ e, count sort (trade.takes e) = if takes e then 1 else 0) (run : List ε) :
    count sort (trade.taken run) = run.countP takes := by
  induction run with
  | nil => rfl
  | cons e rest ih => rw [taken, count_add, ih, each, List.countP_cons, add_comm]

end Count

variable {trade}

/-- What a run has made, one of its events makes. -/
lemma exists_of_mem_made {run : List ε} {x : τ} (made : x ∈ trade.made run) :
    ∃ e ∈ run, x ∈ trade.makes e := by
  induction run with
  | nil => exact absurd made (Multiset.notMem_zero x)
  | cons e rest ih =>
    rcases Multiset.mem_add.1 made with now | later
    · exact ⟨e, List.mem_cons_self .., now⟩
    · obtain ⟨e', mem, makes⟩ := ih later
      exact ⟨e', List.mem_cons_of_mem e mem, makes⟩

/-- What an event takes is among what the run takes. -/
lemma takes_le_taken {run : List ε} {e : ε} (mem : e ∈ run) : trade.takes e ≤ trade.taken run := by
  induction run with
  | nil => cases mem
  | cons e' rest ih =>
    rcases List.mem_cons.1 mem with rfl | later
    · exact Multiset.le_add_right ..
    · exact (ih later).trans (Multiset.le_add_left ..)

variable [DecidableEq τ] (trade)

/-- Every callback of the run takes what is held at first or was made before and is not taken
yet. -/
def ProperFrom (held : Multiset τ) : List ε → Prop
  | [] => True
  | e :: rest => trade.takes e ≤ held ∧ ProperFrom (held - trade.takes e + trade.makes e) rest

/-- Every callback of the run takes what was made before and is not taken yet. -/
def Proper (run : List ε) : Prop := trade.ProperFrom 0 run

instance decidableProperFrom (held : Multiset τ) : (run : List ε) →
    Decidable (trade.ProperFrom held run)
  | [] => inferInstanceAs (Decidable True)
  | e :: rest =>
    have := decidableProperFrom (held - trade.takes e + trade.makes e) rest
    inferInstanceAs (Decidable (_ ∧ _))

instance (run : List ε) : Decidable (trade.Proper run) :=
  inferInstanceAs (Decidable (trade.ProperFrom 0 run))

variable {trade}

/-- A proper run takes no more than it held and has made. -/
lemma ProperFrom.taken_le {held : Multiset τ} {run : List ε} (proper : trade.ProperFrom held run) :
    trade.taken run ≤ held + trade.made run := by
  induction run generalizing held with
  | nil => exact Multiset.zero_le _
  | cons e rest ih =>
    obtain ⟨holds, proper⟩ := proper
    calc trade.taken (e :: rest)
      _ = trade.takes e + trade.taken rest := rfl
      _ ≤ trade.takes e + (held - trade.takes e + trade.makes e + trade.made rest) := by
        gcongr
        exact ih proper
      _ = held + (trade.makes e + trade.made rest) := by
        -- nothing is cut off, since what is taken is held
        rw [← add_assoc, ← add_assoc, add_tsub_cancel_of_le holds, add_assoc]
      _ = held + trade.made (e :: rest) := rfl

/-- Nothing is taken more often than it was made. -/
theorem Proper.taken_le {run : List ε} (proper : trade.Proper run) :
    trade.taken run ≤ trade.made run := by
  have le := ProperFrom.taken_le proper
  rwa [zero_add] at le

/-- No more tokens of some sort are taken than were made. -/
theorem Proper.count_le {run : List ε} (proper : trade.Proper run) (sort : τ → Bool) :
    count sort (trade.taken run) ≤ count sort (trade.made run) :=
  Multiset.countP_le_of_le _ proper.taken_le

/-- Whatever is taken was made by some callback. -/
theorem Proper.exists_makes {run : List ε} (proper : trade.Proper run) {e : ε} (mem : e ∈ run)
    {x : τ} (takes : x ∈ trade.takes e) : ∃ e' ∈ run, x ∈ trade.makes e' :=
  exists_of_mem_made (Multiset.mem_of_le ((takes_le_taken mem).trans proper.taken_le) takes)

/-- What holds of all that is made holds of all that is taken. -/
theorem Proper.forall_takes {run : List ε} (proper : trade.Proper run) {Q : τ → Prop}
    (made : ∀ e, ∀ x ∈ trade.makes e, Q x) {e : ε} (mem : e ∈ run) : ∀ x ∈ trade.takes e, Q x := by
  intro x takes
  obtain ⟨e', -, makes⟩ := proper.exists_makes mem takes
  exact made e' x makes

end Trade

end Metering
