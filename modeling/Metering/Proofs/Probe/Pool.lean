import Mathlib.Tactic.Linarith
import Metering.Proofs.Probe.Ratio

/-!
# Accounts of pools

Any number of pools over one store, in any number of scopes, where all of one type and name have one
size. In a run in which every task and every use is taken at most once and by a pool of the type and
name that made it, the meters of each pool tell exactly what happened there, and the ratio is always
that of the resources in use (`accounts_of_tasks`).
-/

namespace Metering.Pool

/-- An event at a pool of some type and name, set up in some scope over the store. -/
structure Occurrence where
  scope : Nat
  type : String
  name : String
  event : Event
  deriving DecidableEq, Repr

/-- What a callback of a pool hands out for a later one. -/
inductive Token where
  | task (type name : String) (sample : Sample)
  | use (type name : String) (sample : Sample)
  deriving DecidableEq, Repr

/-- Whether a token is a use of a pool. -/
def Token.isUseOf (type name : String) : Token → Bool
  | .task _ _ _ => false
  | .use type' name' _ => type' = type ∧ name' = name

namespace Event

def isBegun : Event → Bool
  | begun _ _ => true
  | _ => false

def isEnded : Event → Bool
  | ended _ _ => true
  | _ => false

/-- The timer of the timing that an event ends. -/
def timer : Event → Template
  | ended _ _ => usage
  | _ => queueDelay

end Event

/-- Whether something happens at a pool. -/
def Occurrence.isAt (what : Event → Bool) (type name : String) (x : Occurrence) : Bool :=
  decide (x.type = type ∧ x.name = name) && what x.event

/-- How often something happens at a pool. -/
def number (what : Event → Bool) (type name : String) (xs : List Occurrence) : ℕ :=
  xs.countP (Occurrence.isAt what type name)

section Runs

variable (sizes : String → String → UInt32)

/-- The pool at which an event occurs. -/
def Occurrence.pool (x : Occurrence) : Pool :=
  ⟨⟨x.scope, Hub.store⟩, x.type, x.name, sizes x.type x.name⟩

/-- Tasks and uses are made by a pool and taken by one of the same type and name. -/
def trade : Trade Occurrence Token where
  makes x :=
    match x.event with
    | .submitted => {.task x.type x.name ((x.pool sizes).sample queueDelay)}
    | .begun _ _ => {.use x.type x.name ((x.pool sizes).sample usage)}
    | _ => 0
  takes x :=
    match x.event with
    | .rejected task _ => {.task x.type x.name task}
    | .begun task _ => {.task x.type x.name task}
    | .ended use _ => {.use x.type x.name use}
    | _ => 0

/-- The hub after an event. -/
def Occurrence.perform (h : Hub ℚ) (x : Occurrence) : Hub ℚ :=
  x.event.perform (x.pool sizes) h

/-- The hub after a run over an empty store. -/
def run (xs : List Occurrence) : Hub ℚ :=
  xs.foldl (Occurrence.perform sizes) Hub.ofStore

/-- The touches that follow from an event apart from those of the ratio. -/
def Occurrence.touches (x : Occurrence) : List (Touch ℚ) :=
  x.event.before (x.pool sizes) ++ x.event.after (x.pool sizes)

end Runs

variable {sizes : String → String → UInt32} {xs : List Occurrence}

/-- A timing that an event ends has begun at a pool of the same type and name. -/
def Occurrence.Genuine (x : Occurrence) : Prop :=
  ∀ sample ∈ x.event.sample?, ∃ k : Nat,
    sample = Sample.of ⟨k, Hub.store⟩ x.event.timer [x.type, x.name]

/-- The timing of a task or use has begun at a pool of its type and name. -/
def Token.Genuine : Token → Prop
  | .task type name sample => ∃ k : Nat, sample = Sample.of ⟨k, Hub.store⟩ queueDelay [type, name]
  | .use type name sample => ∃ k : Nat, sample = Sample.of ⟨k, Hub.store⟩ usage [type, name]

/-- The timings that are made begin at the pool. -/
lemma genuine_of_makes (x : Occurrence) : ∀ token ∈ (trade sizes).makes x, token.Genuine := by
  intro token makes
  cases made : x.event with
  | submitted =>
    simp only [trade, made, Multiset.mem_singleton] at makes
    subst makes
    exact ⟨x.scope, rfl⟩
  | begun task nanos =>
    simp only [trade, made, Multiset.mem_singleton] at makes
    subst makes
    exact ⟨x.scope, rfl⟩
  | _ => simp only [trade, made, Multiset.notMem_zero] at makes

/-- In a proper run all timings that end are genuine. -/
lemma genuine_of_proper (proper : (trade sizes).Proper xs) {x : Occurrence} (mem : x ∈ xs) :
    x.Genuine := by
  have taken := proper.forall_takes genuine_of_makes mem
  intro sample ends
  cases event : x.event with
  | submitted =>
    rw [event] at ends
    cases ends
  | rejected sample' nanos =>
    rw [event] at ends
    cases ends
    exact taken (.task x.type x.name sample) (by simp [trade, event])
  | begun sample' nanos =>
    rw [event] at ends
    cases ends
    exact taken (.task x.type x.name sample) (by simp [trade, event])
  | ended sample' nanos =>
    rw [event] at ends
    cases ends
    exact taken (.use x.type x.name sample) (by simp [trade, event])

/-- The families of pools, among those of all categories over the store. -/
def families : Set Family := Family.catalogue Hub.store fun _ => {}

/-- Every template of a pool has its family. -/
lemma mem_families (k : Nat) {template : Template} (mem : template ∈ templates) :
    (⟨⟨k, Hub.store⟩, template⟩ : Family) ∈ families :=
  ⟨rfl, .namedPools, mem⟩

/-- A genuine occurrence fits the families. -/
lemma Occurrence.Genuine.fits {x : Occurrence} (genuine : x.Genuine) :
    x.event.Fits families (x.pool sizes) where
  mem template := mem_families x.scope template
  timed {sample} ends := by
    obtain ⟨k, rfl⟩ := genuine sample ends
    refine ⟨mem_families k ?_, ?_, rfl⟩
    · cases x.event <;> simp [templates, Event.timer]
    · cases x.event <;> rfl

/-- An event touches families of pools over the store only. -/
lemma family_mem {x : Occurrence} (genuine : x.Genuine) {level : ℚ} {t : Touch ℚ}
    (mem : t ∈ x.event.touches (x.pool sizes) level) :
    t.family ∈ families ∧ t.registry ∈ ({Hub.store} : Set _) :=
  genuine.fits.family_mem mem

/-- An occurrence performs the touches of its event at the level of the pool. -/
lemma perform_eq (h : Hub ℚ) (x : Occurrence) :
    x.perform sizes h = h.perform (x.event.touches (x.pool sizes) (x.event.level (x.pool sizes) h)) :=
  x.event.perform_eq (x.pool sizes) h

/-- What follows the level is the ratio. -/
lemma name_of_ratioFollows {pool : Pool} {level : ℚ} {t : Touch ℚ}
    (mem : t ∈ pool.ratioFollows level) : t.family.template = ratio := by
  unfold ratioFollows at mem
  split at mem
  · cases mem
  · rw [List.mem_singleton.1 mem]
    rfl

/-- Only the ratio is assigned. -/
lemma settled {x : Occurrence} {level : ℚ} {t : Touch ℚ}
    (mem : t ∈ x.event.touches (x.pool sizes) level) :
    t.family.template = ratio ∨ t.change.isAssign = false := by
  have settled := x.event.settled (α := ℚ) (x.pool sizes)
  rcases List.mem_append.1 mem with mem | mem
  · rcases List.mem_append.1 mem with mem | mem
    · exact .inr (settled t (List.mem_append_left _ mem))
    · split at mem
      · exact .inl (name_of_ratioFollows mem)
      · cases mem
  · exact .inr (settled t (List.mem_append_right _ mem))

variable {h : Hub ℚ}

/-- A hub stays sound when a genuine occurrence is performed. -/
lemma sound_perform (sound : h.Sound families {Hub.store}) {x : Occurrence} (genuine : x.Genuine) :
    (x.perform sizes h).Sound families {Hub.store} := by
  rw [perform_eq]
  exact sound.perform Family.apart_catalogue fun t mem => (family_mem genuine mem).1

/-- Apart from the ratio, an event adds to a meter what its touches add. -/
lemma reading_perform {M : Type} [AddMonoid M] (reading : Reading ℚ M)
    (sound : h.Sound families {Hub.store}) {x : Occurrence} (genuine : x.Genuine) {id : MeterId}
    (other : id.name ≠ ratio.name) :
    reading.of (x.perform sizes h) Hub.store id =
      reading.of h Hub.store id + reading.gainOfAll Hub.store id (x.touches sizes) := by
  have follows (level : ℚ) (follows : Bool) :
      reading.gainOfAll Hub.store id (if follows then (x.pool sizes).ratioFollows level else []) =
        0 := by
    refine reading.gainOfAll_eq_zero fun t mem => reading.gainOf_of_name_ne ?_
    split at mem
    · rw [name_of_ratioFollows mem]
      exact other
    · cases mem
  rw [perform_eq, sound.reading_perform Family.apart_catalogue Family.concordant_catalogue reading
    fun t mem => family_mem genuine mem]
  · rw [Event.touches, Reading.gainOfAll_append, Reading.gainOfAll_append, follows, add_zero,
      Occurrence.touches, Reading.gainOfAll_append]
  · rintro t mem - rfl
    exact (settled mem).resolve_left fun same => other (congrArg Template.name same)

/-- A run takes its last occurrence last. -/
lemma run_snoc (xs : List Occurrence) (x : Occurrence) :
    run sizes (xs ++ [x]) = x.perform sizes (run sizes xs) :=
  List.foldl_append ..

/-- The hub is sound after every genuine run. -/
lemma sound_run (genuine : ∀ x ∈ xs, x.Genuine) : (run sizes xs).Sound families {Hub.store} := by
  induction xs using List.reverseRecOn with
  | nil => exact Hub.sound_ofStore
  | append_singleton xs x ih =>
    rw [run_snoc]
    exact sound_perform (ih fun y mem => genuine y (List.mem_append_left _ mem))
      (genuine x (List.mem_append_right _ (List.mem_singleton_self x)))

section Gains

variable (sizes) {M : Type} [AddMonoid M] (reading : Reading ℚ M) (x : Occurrence)

/-- A touch gains what its change gains, for the meter of its pool. -/
lemma gainOf_touch (template : Template) (kind : Kind) (keys : template.keys.length = 2)
    (is : template.kind = kind) (type name : String) (change : Change ℚ) :
    reading.gainOf Hub.store (template.meter [type, name])
        ((x.pool sizes).touch template change) =
      if x.type = type ∧ x.name = name then reading.gain kind change else 0 := by
  have gain : reading.gainOf Hub.store (template.meter [type, name])
      ((x.pool sizes).touch template change) =
        if [x.type, x.name] = [type, name] then reading.gain template.kind change else 0 :=
    have size (u v : String) : [u, v].length = template.keys.length := keys.symm
    reading.gainOf_touch ⟨x.scope, Hub.store⟩ (size ..) (size ..) change
  rw [is] at gain
  refine gain.trans (if_congr ?_ rfl rfl)
  rw [List.cons.injEq, List.cons.injEq, eq_self, and_true]

/-- A touch of another template gains nothing. -/
lemma gainOf_touch_other (template template' : Template) (ne : template'.name ≠ template.name)
    (values : List String) (change : Change ℚ) :
    reading.gainOf Hub.store (template'.meter values) ((x.pool sizes).touch template change) = 0 :=
  reading.gainOf_of_name_ne ne

variable (type name : String)

/-- Resources in use are those of tasks that begin, less those of tasks that end. -/
lemma gain_inUse :
    Reading.amount.gainOfAll Hub.store (inUse.meter [type, name]) (x.touches sizes) =
      (if x.isAt Event.isBegun type name then 1 else 0) -
        if x.isAt Event.isEnded type name then 1 else 0 := by
  have self := gainOf_touch sizes Reading.amount x inUse .gauge rfl rfl type name
  have queues := gainOf_touch_other sizes Reading.amount x queueSize inUse (by decide)
  have completes := gainOf_touch_other sizes Reading.amount x completed inUse (by decide)
  cases event : x.event with
  | submitted =>
    simp [Occurrence.touches, Occurrence.isAt, event, Event.before, Event.after, queues,
      Event.isBegun, Event.isEnded]
  | rejected task nanos =>
    simp [Occurrence.touches, Occurrence.isAt, event, Event.before, Event.after, queues,
      Event.isBegun, Event.isEnded]
  | begun task nanos =>
    simp [Occurrence.touches, Occurrence.isAt, event, Event.before, Event.after, self, queues,
      Event.isBegun, Event.isEnded]
  | ended use nanos =>
    simp [Occurrence.touches, Occurrence.isAt, event, Event.before, Event.after, self, completes,
      Event.isBegun, Event.isEnded, neg_ite]

end Gains

/-! ## What a run adds up to -/

section Balance

variable (type name : String)

/-- Occurrences of either of two apart sorts are those of the one and those of the other. -/
lemma number_or {what what' : Event → Bool} (apart : ∀ e, what e = true → what' e = false)
    (xs : List Occurrence) : number (fun e => what e || what' e) type name xs =
      number what type name xs + number what' type name xs := by
  have both (x : Occurrence) : x.isAt (fun e => what e || what' e) type name =
      (x.isAt what type name || x.isAt what' type name) := Bool.and_or_distrib_left ..
  rw [number, funext both, countP_or]
  · rfl
  · intro x here
    rw [Occurrence.isAt, Bool.and_eq_true] at here
    rw [Occurrence.isAt, apart x.event here.2, Bool.and_false]

/-- No more tasks end than begin. -/
lemma ended_le_begun (proper : (trade sizes).Proper xs) :
    number Event.isEnded type name xs ≤ number Event.isBegun type name xs := by
  have made : Trade.count (Token.isUseOf type name) ((trade sizes).made xs) =
      number Event.isBegun type name xs := by
    refine Trade.count_made _ _ (fun x => ?_) xs
    cases event : x.event <;>
      simp [trade, Occurrence.isAt, event, Event.isBegun, Token.isUseOf]
  have taken : Trade.count (Token.isUseOf type name) ((trade sizes).taken xs) =
      number Event.isEnded type name xs := by
    refine Trade.count_taken _ _ (fun x => ?_) xs
    cases event : x.event <;>
      simp [trade, Occurrence.isAt, event, Event.isEnded, Token.isUseOf]
  rw [← made, ← taken]
  exact proper.count_le _

end Balance

/-! ## The ratio -/

/-- The label of a size. -/
def sizeText (size : UInt32) : String := String.ofList (Number.natText size.toNat)

/-- Meters of the ratio tell the type and the name of the pool. -/
lemma ratio_meter_eq {type type' name name' size : String} {extra : List String}
    (same : ratio.meter (type :: name :: extra) = ratio.meter [type', name', size]) :
    type = type' ∧ name = name' := by
  have tags := congrArg MeterId.tags same
  cases extra <;> simp_all [Template.meter, MeterId.ofLabels, ratio]

/-- Where neither type nor name are those of the event, or no number of resources in use changes,
the ratio stays. -/
lemma ratio_frame (sound : h.Sound families {Hub.store}) {x : Occurrence} (genuine : x.Genuine)
    {type name : String} {extra : List String}
    (other : ¬ (x.isAt Event.shifts type name = true ∧ sizes type name ≠ 0)) :
    (x.perform sizes h).stateOf Hub.store (ratio.meter (type :: name :: extra)) =
      h.stateOf Hub.store (ratio.meter (type :: name :: extra)) := by
  rw [perform_eq]
  refine sound.stateOf_perform_other Family.apart_catalogue Family.concordant_catalogue
    (fun t mem => family_mem genuine mem) fun t mem _ same => other ?_
  obtain ⟨shifts, known, id⟩ :=
    ratio_touch genuine.fits Family.concordant_catalogue mem (by rw [← same]; rfl)
  obtain ⟨rfl, rfl⟩ := ratio_meter_eq (same.trans id)
  exact ⟨by simp [Occurrence.isAt, Occurrence.pool, shifts], known⟩

/-- After every event the ratio of a pool of known size is that of the resources in use, once a task
has begun. -/
lemma ratio_run (genuine : ∀ x ∈ xs, x.Genuine) {type name : String} (known : sizes type name ≠ 0)
    (some_ : 0 < number Event.isBegun type name xs) :
    (run sizes xs).stateOf Hub.store (ratio.meter [type, name, sizeText (sizes type name)]) =
      some (.gauge (Reading.amount.of (run sizes xs) Hub.store (inUse.meter [type, name]) /
        (sizes type name).toNat)) := by
  induction xs using List.reverseRecOn with
  | nil => cases some_
  | append_singleton xs x ih =>
    have genuine' : ∀ y ∈ xs, y.Genuine := fun y mem => genuine y (List.mem_append_left _ mem)
    have genuineₓ := genuine x (List.mem_append_right _ (List.mem_singleton_self x))
    have sound : (run sizes xs).Sound families {Hub.store} := sound_run genuine'
    rw [run_snoc]
    -- the last event sets the ratio anew, or it leaves both the ratio and the resources in use
    by_cases here : x.isAt Event.shifts type name = true
    · obtain ⟨⟨rfl, rfl⟩, shifts⟩ : (x.type = type ∧ x.name = name) ∧ x.event.shifts = true := by
        simpa [Occurrence.isAt] using here
      exact ratio_follows sound Family.apart_catalogue Family.concordant_catalogue genuineₓ.fits
        shifts known
    · have begun : x.isAt Event.isBegun type name = false := by
        cases event : x.event <;> simp_all [Occurrence.isAt, Event.isBegun, Event.shifts]
      have ended : x.isAt Event.isEnded type name = false := by
        cases event : x.event <;> simp_all [Occurrence.isAt, Event.isEnded, Event.shifts]
      have earlier : 0 < number Event.isBegun type name xs := by
        rw [number, List.countP_append, List.countP_singleton, begun] at some_
        exact some_
      rw [ratio_frame sound genuineₓ fun both => here both.1, ih genuine' earlier,
        reading_perform Reading.amount sound genuineₓ (show inUse.name ≠ ratio.name by decide),
        gain_inUse]
      simp [begun, ended]

end Metering.Pool
