import Mathlib.Algebra.BigOperators.Finprod
import Mathlib.Tactic.Ring
import Metering.Proofs.Hub.Reading
import Metering.Proofs.Label
import Metering.Proofs.Probe.Template
import Metering.Proofs.Probe.Token

/-!
# Accounts

How the reading of a meter is made up in a run: each event adds to it what its touches add, so that
the reading is a sum over the events (`Reading.of_run`). Where each event adds a unit or nothing, the
sum is the number of those that add (`Reading.gainOfAll_eq_nsmul`), and where some take away, a
difference (`Reading.amount_gainOfAll_sub`). A touch of a family with laid out labels is one of the
meter of the same template and values (`Laid.id_touch`).
-/

namespace Metering

/-- What does not happen at once adds up. -/
lemma countP_or {ε : Type} {p q : ε → Bool} (apart : ∀ e, p e = true → q e = false)
    (run : List ε) : run.countP (fun e => p e || q e) = run.countP p + run.countP q := by
  induction run with
  | nil => rfl
  | cons e run ih =>
    rw [List.countP_cons, List.countP_cons, List.countP_cons, ih]
    cases is : p e with
    | true =>
      simp only [apart e is, Bool.or_false, if_true, Bool.false_eq_true, if_false]
      omega
    | false =>
      simp only [Bool.false_or, Bool.false_eq_true, if_false]
      omega

/-- Where everything falls under one index at most, the numbers of what falls under each index add up
to the number of what falls under any. -/
lemma finsum_countP {ε ι : Type} [DecidableEq ι] (index : ε → Option ι) (run : List ε) :
    ∑ᶠ i, (run.countP (fun e => index e = some i) : ℚ) = run.countP fun e => (index e).isSome := by
  let indices := run.filterMap index
  have count (i : ι) : run.countP (fun e => index e = some i) = indices.count i := by
    rw [List.count_filterMap]
    exact List.countP_congr fun e _ => by simp
  -- only indices that occur in the run contribute
  have support : (Function.support fun i => (indices.count i : ℚ)) ⊆ indices.toFinset := by
    intro i positive
    have ne : indices.count i ≠ 0 := Nat.cast_ne_zero.1 positive
    exact List.mem_toFinset.2 (List.count_pos_iff.1 (Nat.pos_of_ne_zero ne))
  simp only [count]
  rw [finsum_eq_finsetSum_of_support_subset _ support, ← Nat.cast_sum,
    List.sum_toFinset_count_eq_length, List.length_filterMap_eq_countP]

/-- What falls under some index each adds up over the indices. -/
lemma finsum_countP_and {ε ι : Type} [DecidableEq ι] {p : ε → Bool} {index : ε → Option ι}
    (indexed : ∀ e, p e → (index e).isSome) (run : List ε) :
    ∑ᶠ i, (run.countP (fun e => p e && index e = some i) : ℚ) = run.countP p := by
  let of (e : ε) : Option ι := if p e then index e else none
  have each (i : ι) (e : ε) : (p e && decide (index e = some i)) = decide (of e = some i) := by
    cases is : p e <;> simp [of, is]
  have any (e : ε) : p e = (of e).isSome := by
    cases is : p e with
    | true => simp [of, is, indexed e is]
    | false => simp [of, is]
  calc ∑ᶠ i, (run.countP (fun e => p e && index e = some i) : ℚ)
    _ = ∑ᶠ i, (run.countP (fun e => of e = some i) : ℚ) :=
      finsum_congr fun i => by rw [funext (each i)]
    _ = run.countP fun e => (of e).isSome := finsum_countP of run
    _ = run.countP p := by rw [← funext any]

/-- The identity of the meter of a template for some values, as many as there are labels. -/
def Template.meter (t : Template) (values : List String) : MeterId :=
  MeterId.ofLabels t.name t.keys values

/-- With one value for each key, the identity is that of the template's meter. -/
lemma Family.id_eq_meter {f : Family} {values : List String}
    (size : values.length = f.template.keys.length) : f.id values = f.template.meter values := by
  rw [id, key, LabelKey.ofValues, ← size, List.take_length]
  rfl

/-- Meters of one template differ in their values. -/
lemma Template.meter_eq_iff {t : Template} {values values' : List String}
    (size : values.length ≤ t.keys.length) (size' : values'.length ≤ t.keys.length) :
    t.meter values = t.meter values' ↔ values = values' := by
  constructor
  · intro same
    rw [meter, meter] at same
    rw [← MeterId.values_ofLabels t.name size, same, MeterId.values_ofLabels t.name size']
  · rintro rfl
    rfl

/-- A template that has one name and kind and the labels of a layout with some more. -/
structure Laid (template : LabelSet → Template) (name : String) (kind : Kind)
    (extra : List String) : Prop where
  name (labels) : (template labels).name = name
  kind (labels) : (template labels).kind = kind
  keys (labels) : (template labels).keys = labels.keys extra

/-- The touches of a run are of families of the categories if those of its events are. -/
lemma Family.catalogue_of_run {α ε : Type} {r : RegistryRef} {policies : Nat → LabelPolicy}
    {touches : ε → List (Touch α)} {run : List ε}
    (mem : ∀ e ∈ run, ∀ t ∈ touches e, t.family ∈ catalogue r policies) :
    ∀ t ∈ run.flatMap touches, t.family ∈ catalogue r policies ∧ t.registry ∈ ({r} : Set _) := by
  intro t touched
  obtain ⟨e, of_run, touched⟩ := List.mem_flatMap.1 touched
  have family := mem e of_run t touched
  exact ⟨family, family.1⟩

namespace Reading

variable {α M : Type} [Amount α] [AddMonoid M] (reading : Reading α M)

/-- A touch of another name gains nothing. -/
lemma gainOf_of_name_ne {r : RegistryRef} {id : MeterId} {t : Touch α}
    (ne : id.name ≠ t.family.template.name) : reading.gainOf r id t = 0 := by
  refine if_neg ?_
  rintro ⟨-, rfl⟩
  exact ne rfl

/-- Touches that gain nothing one by one gain nothing together. -/
lemma gainOfAll_eq_zero {r : RegistryRef} {id : MeterId} {ts : List (Touch α)}
    (none : ∀ t ∈ ts, reading.gainOf r id t = 0) : reading.gainOfAll r id ts = 0 := by
  induction ts with
  | nil => rfl
  | cons t ts ih =>
    rw [gainOfAll_cons, none t (List.mem_cons_self ..),
      ih fun t' mem => none t' (List.mem_cons_of_mem t mem), add_zero]

/-- A touch gains what its change gains, for the meter with its values. -/
lemma gainOf_touch (s : Scope) {t : Template} {values values' : List String}
    (size : values.length = t.keys.length) (size' : values'.length = t.keys.length)
    (change : Change α) : reading.gainOf s.registry (t.meter values') (s.touch t values change) =
      if values = values' then reading.gain t.kind change else 0 := by
  have id : (s.touch t values change).id = t.meter values := Family.id_eq_meter (f := ⟨s, t⟩) size
  rw [gainOf, id]
  refine if_congr ((and_iff_right rfl).trans ?_) rfl rfl
  rw [Template.meter_eq_iff size'.le size.le, eq_comm]

/-- Where each event adds a unit or nothing, a run adds as many units as there are such events. -/
lemma gainOfAll_eq_nsmul {ε : Type} {r : RegistryRef} {id : MeterId} {touches : ε → List (Touch α)}
    {adds : ε → Bool} {unit : M} {run : List ε}
    (each : ∀ e ∈ run, reading.gainOfAll r id (touches e) = if adds e then unit else 0) :
    reading.gainOfAll r id (run.flatMap touches) = run.countP adds • unit := by
  induction run with
  | nil => exact (zero_nsmul unit).symm
  | cons e run ih =>
    rw [List.flatMap_cons, gainOfAll_append, each e (List.mem_cons_self ..),
      ih fun e' mem => each e' (List.mem_cons_of_mem e mem), List.countP_cons]
    split
    · rw [succ_nsmul']
    · rw [zero_add, add_zero]

/-- Where each event counts one or nothing, an amount is the number of events that count. -/
lemma amount_gainOfAll {ε : Type} {r : RegistryRef} {id : MeterId} {touches : ε → List (Touch ℚ)}
    {adds : ε → Bool} {run : List ε}
    (each : ∀ e ∈ run, amount.gainOfAll r id (touches e) = if adds e then 1 else 0) :
    amount.gainOfAll r id (run.flatMap touches) = run.countP adds :=
  (amount.gainOfAll_eq_nsmul each).trans (nsmul_one _)

/-- Where each event adds a number and may take one away, an amount is the sum of those numbers less
the number of events that take one away. -/
lemma amount_gainOfAll_sum {ε : Type} {r : RegistryRef} {id : MeterId}
    {touches : ε → List (Touch ℚ)} {adds : ε → ℕ} {down : ε → Bool} {run : List ε}
    (each : ∀ e ∈ run, amount.gainOfAll r id (touches e) =
      (adds e : ℚ) - if down e then 1 else 0) :
    amount.gainOfAll r id (run.flatMap touches) = ((run.map adds).sum : ℚ) - run.countP down := by
  induction run with
  | nil => exact (sub_self 0).symm
  | cons e run ih =>
    rw [List.flatMap_cons, gainOfAll_append, each e (List.mem_cons_self ..),
      ih fun e' mem => each e' (List.mem_cons_of_mem e mem)]
    simp only [List.map_cons, List.sum_cons, List.countP_cons, Nat.cast_add, Nat.cast_ite,
      Nat.cast_one, Nat.cast_zero]
    ring

/-- A sum of truth values counts. -/
lemma sum_map_toNat {ε : Type} (p : ε → Bool) (run : List ε) :
    (run.map fun e => (p e).toNat).sum = run.countP p := by
  induction run with
  | nil => rfl
  | cons e run ih =>
    rw [List.map_cons, List.sum_cons, ih, List.countP_cons, add_comm]
    cases p e <;> rfl

/-- Where each event adds one, takes one away or does neither, an amount is the difference of the
numbers of those that do. -/
lemma amount_gainOfAll_sub {ε : Type} {r : RegistryRef} {id : MeterId}
    {touches : ε → List (Touch ℚ)} {up down : ε → Bool} {run : List ε}
    (each : ∀ e ∈ run, amount.gainOfAll r id (touches e) =
      (if up e then 1 else 0) - if down e then 1 else 0) :
    amount.gainOfAll r id (run.flatMap touches) = (run.countP up : ℚ) - run.countP down := by
  rw [← sum_map_toNat up]
  refine amount_gainOfAll_sum fun e mem => ?_
  rw [each e mem]
  cases up e <;> rfl

/-- Where each event times one or nothing, the number of durations is that of events that time. -/
lemma timings_gainOfAll {ε : Type} {r : RegistryRef} {id : MeterId} {touches : ε → List (Touch α)}
    {adds : ε → Bool} {run : List ε}
    (each : ∀ e ∈ run, timings.gainOfAll r id (touches e) = if adds e then 1 else 0) :
    timings.gainOfAll r id (run.flatMap touches) = UInt64.ofNat (run.countP adds) := by
  rw [timings.gainOfAll_eq_nsmul each]
  induction run.countP adds with
  | zero => rfl
  | succ n ih => rw [succ_nsmul, ih, UInt64.ofNat_add]; rfl

/-- Starting a sample adds nothing to an amount. -/
@[simp] lemma amount_gainOf_start (r : RegistryRef) (id : MeterId) (sample : Sample) :
    amount.gainOf r id sample.start = 0 := by
  rw [gainOf, amount, Sample.start]
  cases (Touch.kind (α := ℚ) ⟨sample.family, sample.values, .touch⟩) <;> exact ite_self 0

/-- Finishing a sample adds nothing to an amount. -/
@[simp] lemma amount_gainOf_finish (r : RegistryRef) (id : MeterId) (sample : Sample)
    (nanos : Nat) : amount.gainOf r id (sample.finish nanos) = 0 := by
  rw [gainOf, amount, Sample.finish]
  cases (Touch.kind (α := ℚ) ⟨sample.family, sample.values, .elapse nanos⟩) <;> exact ite_self 0

/-- Events that touch families of the categories only, and set no gauge, over an empty store: a meter
reads what they add. -/
lemma of_run {ε M : Type} [AddMonoid M] (reading : Reading ℚ M) {policies : Nat → LabelPolicy}
    {touches : ε → List (Touch ℚ)} {run : List ε}
    (members : ∀ t ∈ run.flatMap touches,
      t.family ∈ Family.catalogue Hub.store policies ∧ t.registry ∈ ({Hub.store} : Set _))
    (settled : ∀ e, ∀ t ∈ touches e, t.change.isAssign = false) (id : MeterId) :
    reading.of (Hub.ofStore.perform (run.flatMap touches)) Hub.store id =
      reading.gainOfAll Hub.store id (run.flatMap touches) := by
  refine (Hub.sound_ofStore.reading_perform Family.apart_catalogue Family.concordant_catalogue
    reading members fun t mem _ _ => ?_).trans (zero_add _)
  obtain ⟨e, -, touched⟩ := List.mem_flatMap.1 mem
  exact settled e t touched

end Reading

/-- A touch is one of the meter of its template and values. -/
lemma Laid.id_touch {α : Type} {template : LabelSet → Template} {name : String} {kind : Kind}
    {keys : List String} (laid : Laid template name kind keys) (s : Scope)
    (labels labels' : LabelSet) (l l' r r' : String) {extra extra' : List String}
    (size : extra.length = keys.length) (size' : extra'.length = keys.length)
    (change : Change α) :
    (template labels').meter (labels'.values l' r' extra') =
        (s.touch (template labels) (labels.values l r extra) change).id ↔
      labels.values l r extra = labels'.values l' r' extra' := by
  have id : (s.touch (template labels) (labels.values l r extra) change).id =
      (template labels).meter (labels.values l r extra) :=
    Family.id_eq_meter (f := ⟨s, template labels⟩) (by
      rw [laid.keys]
      exact LabelSet.length_values size)
  rw [id, Template.meter, Template.meter, laid.name, laid.name, laid.keys, laid.keys,
    LabelSet.ofLabels_eq_iff name size' size, eq_comm]

end Metering
