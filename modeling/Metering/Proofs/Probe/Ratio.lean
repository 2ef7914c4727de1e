import Metering.Proofs.Probe.Account
import Metering.Proofs.Probe.Event

/-!
# The ratio of a pool

The ratio is the one meter that is overridden, and the touches that do so depend on the hub: it is
set to the part of the pool that is in use after each change of that number. So right after an event
that changes it the ratio is that of the resources in use (`Pool.ratio_follows`); no other event
touches either of them (`Pool.ratio_touch`, `Pool.inUse_touch`).
-/

namespace Metering.Pool

/-- The identity of the ratio of a pool. -/
def ratioMeter (pool : Pool) : MeterId :=
  ratio.meter (pool.values ++ [String.ofList (Number.natText pool.size.toNat)])

/-- The identity of the number of resources of a pool that are in use. -/
def inUseMeter (pool : Pool) : MeterId := inUse.meter pool.values

/-- The ratio tells type, name and size of the pool. -/
lemma ratioMeter_eq_iff {pool pool' : Pool} : pool.ratioMeter = pool'.ratioMeter ↔
    pool.values = pool'.values ∧ pool.size = pool'.size := by
  have size (pool : Pool) :
      (pool.values ++ [String.ofList (Number.natText pool.size.toNat)]).length ≤
        ratio.keys.length := Nat.le_refl 3
  rw [ratioMeter, ratioMeter, Template.meter_eq_iff (size pool) (size pool')]
  constructor
  · intro same
    obtain ⟨values, text⟩ := List.append_inj' same rfl
    rw [List.singleton_inj, String.ofList_inj, Number.natText_injective.eq_iff,
      UInt32.toNat_inj] at text
    exact ⟨values, text⟩
  · rintro ⟨values, size⟩
    rw [values, size]

/-- The meter in use tells the values of the pool. -/
lemma inUseMeter_eq_iff {pool pool' : Pool} : pool.inUseMeter = pool'.inUseMeter ↔
    pool.values = pool'.values := by
  have size (pool : Pool) : pool.values.length ≤ inUse.keys.length := Nat.le_refl 2
  exact Template.meter_eq_iff (size pool) (size pool')

/-- The families of a pool are among others over its registry, and a timing that an event ends is
bound to a timer among them. -/
structure Event.Fits (F : Set Family) (pool : Pool) (event : Event) : Prop where
  mem {template : Template} : template ∈ templates → (⟨pool.scope, template⟩ : Family) ∈ F
  timed {sample : Sample} : sample ∈ event.sample? → sample.family ∈ F ∧
    sample.family.template.kind = .timer ∧ sample.family.scope.registry = pool.scope.registry

variable {F : Set Family} {pool : Pool} {event : Event} {h : Hub ℚ}

namespace Event.Fits

/-- An event touches families among those over the registry of its pool. -/
lemma family_mem (fits : event.Fits F pool) {level : ℚ} {t : Touch ℚ}
    (mem : t ∈ event.touches pool level) :
    t.family ∈ F ∧ t.registry ∈ ({pool.scope.registry} : Set _) := by
  let here : Set Family := {f | f ∈ F ∧ f.scope.registry = pool.scope.registry}
  refine (event.touches_belong pool level t mem).family_mem (F := here) ?_ fun sample ends => ?_
  · exact fun template mem => ⟨fits.mem mem, rfl⟩
  · obtain ⟨family, -, registry⟩ := fits.timed ends
    exact ⟨family, registry⟩

/-- Families of one name are of one kind. -/
lemma kind_of_name (fits : event.Fits F pool) (concordant : Family.Concordant F) {level : ℚ}
    {t : Touch ℚ} (mem : t ∈ event.touches pool level) {template : Template}
    (of : template ∈ templates) (same : t.id.name = template.name) : t.kind = template.kind :=
  concordant _ (fits.family_mem mem).1 _ (fits.mem of) (fits.family_mem mem).2 same

/-- Apart from the ratio, the gauges that are touched are the tasks in the queue and, where their
number changes, the resources in use. -/
lemma id_of_gauge (fits : event.Fits F pool) :
    ∀ t ∈ (event.before pool ++ event.after pool : List (Touch ℚ)), t.kind = .gauge →
      t.id = queueSize.meter pool.values ∨ event.shifts ∧ t.id = pool.inUseMeter := by
  have timed {sample : Sample} (ends : sample ∈ event.sample?) {is : Prop} :
      sample.family.template.kind = .gauge → is := fun gauge => by
    rw [(fits.timed ends).2.1] at gauge
    cases gauge
  cases event with
  | submitted =>
    exact List.forall_mem_cons.2 ⟨fun _ => .inl rfl, List.forall_mem_singleton.2 nofun⟩
  | rejected task nanos =>
    exact List.forall_mem_cons.2 ⟨fun _ => .inl rfl, List.forall_mem_singleton.2 (timed rfl)⟩
  | begun task nanos =>
    exact List.forall_mem_cons.2 ⟨fun _ => .inl rfl, List.forall_mem_cons.2 ⟨timed rfl,
      List.forall_mem_cons.2 ⟨fun _ => .inr ⟨rfl, rfl⟩, List.forall_mem_singleton.2 nofun⟩⟩⟩
  | ended use nanos =>
    exact List.forall_mem_cons.2 ⟨fun _ => .inr ⟨rfl, rfl⟩, List.forall_mem_cons.2 ⟨timed rfl,
      List.forall_mem_singleton.2 nofun⟩⟩

/-- No gauge is touched after the ratio has followed. -/
lemma not_gauge_after (fits : event.Fits F pool) :
    ∀ t ∈ (event.after pool : List (Touch ℚ)), t.kind ≠ .gauge := by
  cases event with
  | submitted => exact List.forall_mem_nil _
  | rejected => exact List.forall_mem_nil _
  | begun => exact List.forall_mem_singleton.2 nofun
  | ended use nanos =>
    refine List.forall_mem_cons.2 ⟨fun gauge => ?_, List.forall_mem_singleton.2 nofun⟩
    cases (fits.timed rfl).2.1.symm.trans gauge

end Event.Fits

/-- What is set where the number of resources in use changes. -/
lemma id_of_ratioFollows {level : ℚ} {t : Touch ℚ} (mem : t ∈ pool.ratioFollows level) :
    pool.size ≠ 0 ∧ t.id = pool.ratioMeter := by
  unfold ratioFollows at mem
  split at mem
  case isTrue => cases mem
  case isFalse known =>
    rw [List.mem_singleton.1 mem]
    exact ⟨known, rfl⟩

section Touches

variable (fits : event.Fits F pool) (concordant : Family.Concordant F) {level : ℚ} {t : Touch ℚ}
include fits concordant

/-- The ratio is touched if the size is known and the number of resources in use changes. -/
lemma ratio_touch (mem : t ∈ event.touches pool level) (is : t.id.name = ratio.name) :
    event.shifts ∧ pool.size ≠ 0 ∧ t.id = pool.ratioMeter := by
  have gauge : t.kind = .gauge := fits.kind_of_name concordant mem (by simp [templates]) is
  have other (mem : t ∈ event.before pool ++ event.after pool) : False := by
    rcases fits.id_of_gauge t mem gauge with id | ⟨-, id⟩
    · rw [id] at is
      exact absurd is (show queueSize.name ≠ ratio.name by decide)
    · rw [id] at is
      exact absurd is (show inUse.name ≠ ratio.name by decide)
  rcases List.mem_append.1 mem with mem | mem
  · rcases List.mem_append.1 mem with mem | mem
    · exact (other (List.mem_append_left _ mem)).elim
    · split at mem
      case isTrue shifts => exact ⟨shifts, id_of_ratioFollows mem⟩
      case isFalse => cases mem
  · exact (other (List.mem_append_right _ mem)).elim

/-- The number of resources in use is touched by the events that change it. -/
lemma inUse_touch (mem : t ∈ event.touches pool level) (is : t.id.name = inUse.name) :
    event.shifts ∧ t.id = pool.inUseMeter := by
  have gauge : t.kind = .gauge := fits.kind_of_name concordant mem (by simp [templates]) is
  have other (mem : t ∈ event.before pool ++ event.after pool) :
      event.shifts ∧ t.id = pool.inUseMeter := by
    rcases fits.id_of_gauge t mem gauge with id | shifts
    · rw [id] at is
      exact absurd is (show queueSize.name ≠ inUse.name by decide)
    · exact shifts
  rcases List.mem_append.1 mem with mem | mem
  · rcases List.mem_append.1 mem with mem | mem
    · exact other (List.mem_append_left _ mem)
    · split at mem
      · rw [(id_of_ratioFollows mem).2] at is
        exact absurd is (show ratio.name ≠ inUse.name by decide)
      · cases mem
  · exact other (List.mem_append_right _ mem)

end Touches

section Steps

variable (sound : h.Sound F {pool.scope.registry}) (apart : Family.Apart F)
variable (concordant : Family.Concordant F) (fits : event.Fits F pool)
include sound apart concordant fits

/-- What is in use is known before the ratio follows. -/
lemma stateOf_inUse : (event.perform pool h).stateOf pool.scope.registry pool.inUseMeter =
    (h.perform (event.before pool)).stateOf pool.scope.registry pool.inUseMeter := by
  have mem := fun t (mem : t ∈ event.touches pool (event.level pool h)) => fits.family_mem mem
  rw [event.perform_eq]
  rw [Event.touches, List.append_assoc] at mem ⊢
  obtain ⟨mem₁, mem₂⟩ := List.forall_mem_append.1 mem
  have sound₁ := sound.perform apart fun t mem => (mem₁ t mem).1
  rw [Hub.perform_append]
  refine sound₁.stateOf_perform_other apart concordant mem₂ fun t mem _ same => ?_
  have name : t.id.name = inUse.name := congrArg MeterId.name same.symm
  rcases List.mem_append.1 mem with mem | mem
  · split at mem
    · rw [(id_of_ratioFollows mem).2] at name
      exact absurd name (show ratio.name ≠ inUse.name by decide)
    · cases mem
  · have touched : t ∈ event.touches pool 0 := List.mem_append_right _ mem
    exact fits.not_gauge_after t mem
      (fits.kind_of_name concordant touched (by simp [templates]) name)

/-- The level that the ratio follows is what is in use after the event. -/
lemma level_eq (shifts : event.shifts) : event.level pool h =
    Reading.amount.of (event.perform pool h) pool.scope.registry pool.inUseMeter := by
  have mem : ∀ t ∈ (event.before pool : List (Touch ℚ)), t.family ∈ F := fun t mem => by
    have touched : t ∈ event.touches pool 0 :=
      List.mem_append_left _ (List.mem_append_left _ mem)
    exact (fits.family_mem touched).1
  have touched (g : Hub ℚ) (change : Change ℚ) :
      ∃ m, (g.touch (pool.touch inUse change)).kept? ⟨pool.scope, inUse⟩ pool.values = some m :=
    ⟨_, (g.got_get ⟨pool.scope, inUse⟩ pool.values).kept?_self⟩
  -- the family keeps an instrument once the number has changed
  obtain ⟨m, kept⟩ :
      ∃ m, (h.perform (event.before pool)).kept? ⟨pool.scope, inUse⟩ pool.values = some m := by
    cases event with
    | submitted => cases shifts
    | rejected => cases shifts
    | begun => exact touched _ _
    | ended => exact touched _ _
  have level : event.level pool h = Reading.amount.of (h.perform (event.before pool))
      pool.scope.registry pool.inUseMeter :=
    (sound.perform apart mem).level_get concordant (fits.mem (by simp [templates])) rfl rfl kept
  rw [level, Reading.of, Reading.of, stateOf_inUse sound apart concordant fits]

/-- Where the number of resources in use changes and the size is known, the ratio is that of the
resources in use. -/
lemma ratio_follows (shifts : event.shifts) (known : pool.size ≠ 0) :
    (event.perform pool h).stateOf pool.scope.registry pool.ratioMeter =
      some (.gauge (Reading.amount.of (event.perform pool h) pool.scope.registry pool.inUseMeter /
        pool.size.toNat)) := by
  let level := event.level pool h
  let follow : Touch ℚ := pool.scope.touch ratio
    (pool.values ++ [String.ofList (Number.natText pool.size.toNat)])
    (.assign (level / Amount.ofCount pool.size.toUInt64))
  have touches : event.touches pool level =
      event.before pool ++ follow :: event.after pool := by
    have followed : pool.ratioFollows level = [follow] := if_neg known
    rw [Event.touches, if_pos shifts, followed, List.append_assoc]
    rfl
  have mem := fun t (mem : t ∈ event.touches pool level) => fits.family_mem mem
  rw [touches] at mem
  obtain ⟨mem₁, mem₂⟩ := List.forall_mem_append.1 mem
  obtain ⟨hf, mem₃⟩ := List.forall_mem_cons.1 mem₂
  have sound₁ := sound.perform apart fun t mem => (mem₁ t mem).1
  have sound₂ := sound₁.touch apart hf.1
  have result : event.perform pool h =
      ((h.perform (event.before pool)).touch follow).perform (event.after pool) := by
    rw [event.perform_eq, touches, Hub.perform_append]
    rfl
  -- what is touched afterwards has another name than the ratio
  have later : ∀ t ∈ (event.after pool : List (Touch ℚ)), pool.scope.registry = t.registry →
      pool.ratioMeter ≠ t.id := fun t mem _ same => by
    have touched : t ∈ event.touches pool 0 := List.mem_append_right _ mem
    exact fits.not_gauge_after t mem (fits.kind_of_name concordant touched
      (by simp [templates]) (congrArg MeterId.name same).symm)
  have set_ : (Touch.after ((h.perform (event.before pool)).stateOf pool.scope.registry follow.id)
      follow) = some (.gauge (level / pool.size.toNat)) := by
    cases state : (h.perform (event.before pool)).stateOf pool.scope.registry follow.id with
    | none => rfl
    | some i =>
      have kind : i.kind = .gauge := sound₁.kind_of_stateOf concordant hf.1 state
      cases i with
      | gauge => rfl
      | counter | timer | summary => cases kind
  rw [← level_eq sound apart concordant fits shifts, result,
    sound₂.stateOf_perform_other apart concordant mem₃ later,
    sound₁.stateOf_touch apart concordant hf.1 hf.2, if_pos ⟨rfl, rfl⟩]
  exact set_

end Steps

end Metering.Pool
