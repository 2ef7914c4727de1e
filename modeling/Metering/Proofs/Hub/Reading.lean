import Mathlib.Algebra.BigOperators.Group.List.Basic
import Mathlib.Algebra.Order.Ring.Rat
import Mathlib.Algebra.Field.Rat
import Mathlib.Data.UInt
import Metering.Proofs.Hub.State

/-!
# Readings

Amounts that are rational numbers, so that nothing is lost when they are added up, and what can be
read off a meter: an amount (`Reading.amount`) or how many durations were recorded
(`Reading.timings`). Both are additive, and so are accounts of a run of touches:
`Hub.Sound.reading_perform`.
-/

namespace Metering

/-! ## Exact amounts -/

instance : Amount ℚ where
  ofCount n := n.toNat
  isFinite _ := true
  isNegative x := x < 0
  larger x y := if y < x then x else y
  text x := (toString x).toList

/-- Of exact amounts the larger is the maximum. -/
lemma Amount.larger_eq_max (x y : ℚ) : Amount.larger x y = max x y := by
  change (if y < x then x else y) = max x y
  split
  case isTrue less => rw [max_eq_left less.le]
  case isFalse not_less => rw [max_eq_right (not_lt.1 not_less)]

namespace Change

variable {α : Type}

/-- Whether the change forgets the value that a gauge had. -/
def isAssign : Change α → Bool
  | assign _ => true
  | _ => false

/-- By how much a change raises the amount of a meter. -/
def rise : Kind → Change ℚ → ℚ
  | .counter, count amount => if amount < 0 then 0 else amount
  | .gauge, shift amount => amount
  | _, _ => 0

/-- How many durations a change adds to a meter. -/
def durations : Kind → Change α → UInt64
  | .timer, elapse _ => 1
  | _, _ => 0

end Change

namespace Instrument

/-- The amount of a counter or gauge. -/
def amount : Instrument ℚ → ℚ
  | counter value => value
  | gauge value => value
  | _ => 0

/-- The number of durations of a timer. -/
def timings {α : Type} : Instrument α → UInt64
  | timer state => state.count
  | _ => 0

/-- Unless a gauge is overridden, changes add to amounts. -/
lemma amount_apply (i : Instrument ℚ) {c : Change ℚ} (settled : c.isAssign = false) :
    (i.apply c).amount = i.amount + c.rise i.kind := by
  cases i with
  | counter value =>
    cases c with
    | count amount =>
      by_cases negative : amount < 0
      · simp [apply, Instrument.amount, Change.rise, kind, Amount.isFinite, Amount.isNegative,
          negative]
      · simp [apply, Instrument.amount, Change.rise, kind, Amount.isFinite, Amount.isNegative,
          negative]
    | _ => simp [apply, Instrument.amount, Change.rise, kind]
  | gauge value =>
    cases c with
    | shift amount => rfl
    | assign value => cases settled
    | _ => simp [apply, Instrument.amount, Change.rise, kind]
  | timer state => cases c <;> simp [apply, Instrument.amount, Change.rise, kind]
  | summary state => cases c <;> simp [apply, Instrument.amount, Change.rise, kind]

/-- Changes add to the number of durations. -/
lemma timings_apply {α : Type} [Amount α] (i : Instrument α) (c : Change α) :
    (i.apply c).timings = i.timings + c.durations i.kind := by
  cases i with
  | timer state => cases c <;> simp [apply, timings, Change.durations, kind, Timer.record]
  | counter value =>
    cases c with
    | count amount =>
      rw [apply]
      split <;> rfl
    | _ => rfl
  | gauge value => cases c <;> rfl
  | summary state => cases c <;> rfl

end Instrument

/-! ## Additive readings -/

/-- What can be read off an instrument and is zero at first, then raised by changes. -/
structure Reading (α M : Type) [Amount α] [AddMonoid M] where
  read : Instrument α → M
  /-- What a change adds to an instrument of a kind. -/
  gain : Kind → Change α → M
  read_fresh (k : Kind) : read (.fresh k) = 0
  read_apply (i : Instrument α) {c : Change α} :
    c.isAssign = false → read (i.apply c) = read i + gain i.kind c

namespace Reading

/-- The amount. -/
def amount : Reading ℚ ℚ where
  read := Instrument.amount
  gain k c := c.rise k
  read_fresh k := by cases k <;> rfl
  read_apply i _ settled := i.amount_apply settled

/-- The number of durations. -/
def timings {α : Type} [Amount α] : Reading α UInt64 where
  read := Instrument.timings
  gain k c := c.durations k
  read_fresh k := by cases k <;> rfl
  read_apply i _ _ := i.timings_apply _

/-- A gauge that rises gains one. -/
@[simp] lemma amount_gain_up : amount.gain .gauge .up = 1 := rfl

/-- A gauge that falls loses one. -/
@[simp] lemma amount_gain_down : amount.gain .gauge .down = -1 := rfl

/-- A counter that counts gains one. -/
@[simp] lemma amount_gain_countOne : amount.gain .counter .countOne = 1 := rfl

/-- A timer that is only looked up times nothing. -/
@[simp] lemma timings_gain_touch {α : Type} [Amount α] :
    (timings : Reading α UInt64).gain .timer .touch = 0 := rfl

/-- A duration is one timing, however long it is. -/
@[simp] lemma timings_gain_elapse {α : Type} [Amount α] (nanos : Nat) :
    (timings : Reading α UInt64).gain .timer (.elapse nanos) = 1 := rfl

variable {α M : Type} [Amount α] [AddMonoid M] (reading : Reading α M)

/-- The reading of the meter that a registry lists under an identity, zero if it lists none. -/
def of (h : Hub α) (r : RegistryRef) (id : MeterId) : M :=
  ((h.stateOf r id).map reading.read).getD 0

/-- What a touch adds to the reading of a meter. -/
def gainOf (r : RegistryRef) (id : MeterId) (t : Touch α) : M :=
  if r = t.registry ∧ id = t.id then reading.gain t.kind t.change else 0

/-- What touches add to the reading of a meter. -/
def gainOfAll (r : RegistryRef) (id : MeterId) (ts : List (Touch α)) : M :=
  (ts.map (reading.gainOf r id)).sum

/-- No touches add nothing. -/
@[simp] lemma gainOfAll_nil (r : RegistryRef) (id : MeterId) : reading.gainOfAll r id [] = 0 := rfl

/-- The first touch adds its part. -/
@[simp] lemma gainOfAll_cons (r : RegistryRef) (id : MeterId) (t : Touch α) (ts : List (Touch α)) :
    reading.gainOfAll r id (t :: ts) = reading.gainOf r id t + reading.gainOfAll r id ts :=
  List.sum_cons

/-- What touches add is summed up. -/
@[simp] lemma gainOfAll_append (r : RegistryRef) (id : MeterId) (ts us : List (Touch α)) :
    reading.gainOfAll r id (ts ++ us) = reading.gainOfAll r id ts + reading.gainOfAll r id us := by
  rw [gainOfAll, List.map_append, List.sum_append]
  rfl

end Reading

namespace Hub

variable {α M : Type} [Amount α] [AddMonoid M] {h : Hub α} {F : Set Family} {R : Set RegistryRef}

/-- A touch adds to the reading of the meter that it touches. -/
lemma Sound.reading_touch (sound : h.Sound F R) (apart : Family.Apart F)
    (concordant : Family.Concordant F) (reading : Reading α M) {t : Touch α} (ht : t.family ∈ F)
    (live : t.registry ∈ R) {r : RegistryRef} {id : MeterId}
    (settled : r = t.registry → id = t.id → t.change.isAssign = false) :
    reading.of (h.touch t) r id = reading.of h r id + reading.gainOf r id t := by
  rw [Reading.of, Reading.of, Reading.gainOf, sound.stateOf_touch apart concordant ht live]
  split
  case isFalse => rw [add_zero]
  case isTrue same =>
    obtain ⟨rfl, rfl⟩ := same
    have apply (i : Instrument α) (kind : i.kind = t.kind) :
        reading.read (i.apply t.change) = reading.read i + reading.gain t.kind t.change := by
      rw [← kind]
      exact reading.read_apply i (settled rfl rfl)
    -- a meter that is not listed yet begins as a fresh one, which reads zero
    cases state : h.stateOf t.registry t.id with
    | none =>
      rw [Option.getD_none, Option.map_some, Option.getD_some, Option.map_none, Option.getD_none,
        apply _ (Instrument.kind_fresh _), reading.read_fresh]
    | some i =>
      rw [Option.getD_some, Option.map_some, Option.getD_some, Option.map_some, Option.getD_some]
      exact apply i (sound.kind_of_stateOf concordant ht state)

/-- A run of touches adds to the reading of a meter what each of them adds. -/
theorem Sound.reading_perform (sound : h.Sound F R) (apart : Family.Apart F)
    (concordant : Family.Concordant F) (reading : Reading α M) {r : RegistryRef} {id : MeterId}
    {ts : List (Touch α)} (hts : ∀ t ∈ ts, t.family ∈ F ∧ t.registry ∈ R)
    (settled : ∀ t ∈ ts, r = t.registry → id = t.id → t.change.isAssign = false) :
    reading.of (h.perform ts) r id = reading.of h r id + reading.gainOfAll r id ts := by
  induction ts generalizing h with
  | nil => exact (add_zero _).symm
  | cons t ts ih =>
    obtain ⟨ht, live⟩ := hts t (List.mem_cons_self ..)
    have step := sound.reading_touch apart concordant reading ht live
      (settled t (List.mem_cons_self ..))
    have rest := ih (sound.touch apart ht) (fun t' mem => hts t' (List.mem_cons_of_mem t mem))
      fun t' mem => settled t' (List.mem_cons_of_mem t mem)
    calc reading.of ((h.touch t).perform ts) r id
      _ = reading.of (h.touch t) r id + reading.gainOfAll r id ts := rest
      _ = reading.of h r id + reading.gainOfAll r id (t :: ts) := by
        rw [step, Reading.gainOfAll_cons, add_assoc]

/-- The level of a gauge that a family keeps is the amount of the meter. -/
lemma Sound.level_get {h : Hub ℚ} (sound : h.Sound F R) (concordant : Family.Concordant F)
    {f : Family} (hf : f ∈ F) (live : f.scope.registry ∈ R) (gauge : f.template.kind = .gauge)
    {vs : List String} {m : MeterRef} (kept : h.kept? f vs = some m) :
    h.level (h.get f vs).1 = Reading.amount.of h f.scope.registry (f.id vs) := by
  obtain ⟨⟨l, listed, id, meter⟩, kind⟩ := sound.shared_of_kept concordant hf live kept
  have got : (h.get f vs).1 = m := by rw [Hub.get, kept]
  rw [got, Reading.of, ← id, sound.stateOf_of_listed listed, meter, level]
  rw [kind?, gauge] at kind
  obtain ⟨i, instrument, kind⟩ := Option.map_eq_some_iff.1 kind
  rw [instrument]
  cases i with
  | gauge value => rfl
  | counter | timer | summary => cases kind

end Hub

end Metering
