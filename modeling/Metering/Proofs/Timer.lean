import Mathlib.Algebra.Order.BigOperators.Group.List
import Mathlib.Algebra.Order.Ring.Nat
import Metering.Proofs.Hub.Summary

/-!
# Averages of timers

What a timer shows that has recorded some durations (`Timer.Shows`): how many there were, their sum and
the longest, as long as nothing goes beyond 64 bits. The sum is divided by a number of 32 bits, so that
the average is the true one for fewer than `2 ^ 32` durations; for more of them `average_of_records`
tells when it is.
-/

namespace Metering.Timer

/-- The durations of a timer are counted and added up, and the longest is kept. -/
structure Shows (t : Timer) (durations : List ℕ) : Prop where
  count : t.count.toNat = durations.length
  total : t.total.toNat = durations.sum
  longest : t.longest.toNat = durations.max?.getD 0

variable {t : Timer} {durations : List ℕ} {nanos : ℕ}

/-- A duration that fits is not cut. -/
lemma toNat_saturate (fits : nanos < 2 ^ 64) : (saturate nanos).toNat = nanos := by
  have least : min nanos (UInt64.size - 1) = nanos := by
    rw [UInt64.size]
    omega
  rw [saturate, least, UInt64.toNat_ofNat_of_lt' fits]

lemma Shows.empty : ({} : Timer).Shows [] := ⟨rfl, rfl, rfl⟩

/-- One more duration is recorded. -/
lemma Shows.record (shows_ : t.Shows durations) (few : durations.length + 1 < 2 ^ 64)
    (short : durations.sum + nanos < 2 ^ 64) : (t.record nanos).Shows (durations ++ [nanos]) := by
  have elapsed : (saturate nanos).toNat = nanos := toNat_saturate (by omega)
  constructor
  case count =>
    rw [Timer.record, UInt64.toNat_add, shows_.count, List.length_append, UInt64.toNat_one]
    exact Nat.mod_eq_of_lt few
  case total =>
    rw [Timer.record, UInt64.toNat_add, shows_.total, elapsed, List.sum_append, List.sum_singleton]
    exact Nat.mod_eq_of_lt short
  case longest =>
    rw [Summary.getD_max?_concat, ← shows_.longest, Timer.record]
    dsimp only
    split
    case isTrue less =>
      rw [UInt64.lt_iff_toNat_lt, elapsed] at less
      rw [elapsed, max_eq_right less.le]
    case isFalse not_less =>
      rw [UInt64.lt_iff_toNat_lt, elapsed, not_lt] at not_less
      rw [max_eq_left not_less]

/-- Any durations that 64 bits are enough for. -/
theorem shows_records (few : durations.length < 2 ^ 64) (short : durations.sum < 2 ^ 64) :
    (durations.foldl Timer.record {}).Shows durations := by
  induction durations using List.reverseRecOn with
  | nil => exact .empty
  | append_singleton durations nanos ih =>
    rw [List.length_append, List.length_singleton] at few
    rw [List.sum_append, List.sum_singleton] at short
    rw [List.foldl_append]
    exact (ih (by omega) (by omega)).record few short

/-- The sum is divided by the count, up to a limit. -/
lemma Shows.mean (shows_ : t.Shows durations) (some : durations ≠ []) :
    t.mean.toNat = durations.sum / min durations.length (2 ^ 32 - 1) := by
  have positive : t.count ≠ 0 := by
    intro zero
    have count := shows_.count
    rw [zero] at count
    exact some (List.length_eq_zero_iff.1 count.symm)
  rw [Timer.mean, if_neg positive, UInt64.toNat_div, shows_.total, UInt64.toNat_min, shows_.count]
  rfl

/-- The longest duration is the largest of those recorded. -/
lemma Shows.max? (shows_ : t.Shows durations) (some : durations ≠ []) :
    durations.max? = .some t.longest.toNat := by
  obtain ⟨longest, found⟩ := Option.isSome_iff_exists.1 (List.isSome_max?_of_ne_nil some)
  rw [found, shows_.longest, found, Option.getD_some]

/-- The true average is not beyond the longest duration. -/
lemma average_le_max (some : durations ≠ []) {longest : ℕ} (found : durations.max? = .some longest) :
    durations.sum / durations.length ≤ longest := by
  have bound : durations.sum ≤ durations.length * longest :=
    durations.sum_le_card_nsmul longest (List.max?_eq_some_iff.1 found).2
  have positive : 0 < durations.length := List.length_pos_iff.2 some
  calc durations.sum / durations.length
    _ ≤ durations.length * longest / durations.length := Nat.div_le_div_right bound
    _ = longest := Nat.mul_div_cancel_left _ positive

/-- Count, sum and longest duration are right as long as 64 bits are enough. The average is the true one
and not beyond the longest duration if there are fewer than `2 ^ 32`, and otherwise only if dividing by
`2 ^ 32 - 1` makes no difference or stays below one of the durations. -/
theorem average_of_records (some : durations ≠ []) (few : durations.length < 2 ^ 64)
    (short : durations.sum < 2 ^ 64) :
    let t := durations.foldl Timer.record {}
    t.count.toNat = durations.length ∧ t.total.toNat = durations.sum ∧
    durations.max? = .some t.longest.toNat ∧
    t.mean.toNat = durations.sum / min durations.length (2 ^ 32 - 1) ∧
    (t.mean.toNat = durations.sum / durations.length ↔ durations.length < 2 ^ 32 ∨
      durations.sum / (2 ^ 32 - 1) = durations.sum / durations.length) ∧
    (t.mean ≤ t.longest ↔ durations.length < 2 ^ 32 ∨
      ∃ d ∈ durations, durations.sum / (2 ^ 32 - 1) ≤ d) := by
  intro t
  have shows_ : t.Shows durations := shows_records few short
  have mean := shows_.mean some
  have max := shows_.max? some
  refine ⟨shows_.count, shows_.total, max, mean, ?_, ?_⟩
  -- the divisor is the count while that fits into 32 bits, and their largest number from then on
  case refine_1 =>
    rw [mean]
    by_cases many : durations.length < 2 ^ 32
    case pos =>
      rw [Nat.min_eq_left (by omega)]
      exact iff_of_true rfl (.inl many)
    case neg => rw [Nat.min_eq_right (by omega), or_iff_right many]
  case refine_2 =>
    rw [UInt64.le_iff_toNat_le, mean]
    by_cases many : durations.length < 2 ^ 32
    case pos =>
      rw [Nat.min_eq_left (by omega)]
      exact iff_of_true (average_le_max some max) (.inl many)
    case neg =>
      obtain ⟨longest_mem, longest⟩ := List.max?_eq_some_iff.1 max
      rw [Nat.min_eq_right (by omega), or_iff_right many]
      constructor
      case mp => exact fun below => ⟨_, longest_mem, below⟩
      case mpr => exact fun ⟨d, d_mem, below⟩ => below.trans (longest d d_mem)

/-- Two durations. -/
theorem average_of_two_records :
    let t := [10000000, 30000000].foldl Timer.record {}
    t.total.toNat = 40000000 ∧ t.mean.toNat = 20000000 ∧ t.mean ≤ t.longest := by
  obtain ⟨-, total, -, -, mean, below⟩ :=
    @average_of_records [10000000, 30000000] (by decide) (by decide) (by decide)
  exact ⟨total, mean.2 (.inl (by decide)), below.2 (.inl (by decide))⟩

/-- A nanosecond, recorded `2 ^ 33` times, has an average of two nanoseconds. -/
theorem not_average_of_many :
    let durations := List.replicate (2 ^ 33) 1
    let t := durations.foldl Timer.record {}
    durations.length = 2 ^ 33 ∧ durations.sum = 2 ^ 33 ∧ t.mean.toNat = 2 ∧
      durations.sum / durations.length = 1 ∧ t.longest < t.mean := by
  intro durations
  have length : durations.length = 2 ^ 33 := List.length_replicate
  have sum : durations.sum = 2 ^ 33 := List.sum_replicate_nat
  have longest : durations.max? = .some 1 := List.max?_replicate_of_pos (by decide)
  -- A variable, unlike the list, is not evaluated.
  clear_value durations
  intro t
  have shows_ : t.Shows durations :=
    shows_records (by rw [length]; decide) (by rw [sum]; decide)
  have mean : t.mean.toNat = 2 := by
    rw [shows_.mean (List.ne_nil_of_length_pos (by rw [length]; decide)), sum, length]
    decide
  have below : t.longest < t.mean := by
    rw [UInt64.lt_iff_toNat_lt, mean, shows_.longest, longest]
    decide
  have average : durations.sum / durations.length = 1 := by
    rw [sum, length]
    decide
  exact ⟨length, sum, mean, average, below⟩

end Metering.Timer
