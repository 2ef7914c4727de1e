import Metering.Proofs.Hub.Order
import Metering.Proofs.Probe.Ratio

/-!
# Runs of reports

Reports to the probes of any number of scopes over one store. The order in which they come does not
matter: all touches but those of the ratios of pools may come in any order, and each ratio is that of
the resources in use in the end (`Report.run_perm`).
-/

namespace Metering

variable {α : Type} [Amount α]

/-- No touch of a datagram socket assigns. -/
lemma DatagramSocket.Event.settled (socket : DatagramSocket) (event : DatagramSocket.Event) :
    ∀ t ∈ (event.touches socket : List (Touch α)), t.change.isAssign = false := by
  obtain ⟨scope, localEnd⟩ := socket
  cases event with
  | bytesRead =>
    cases localEnd with
    | none => exact List.forall_mem_nil _
    | some => exact List.forall_mem_singleton.2 rfl
  | bytesWritten => exact List.forall_mem_singleton.2 rfl
  | failed => exact List.forall_mem_singleton.2 rfl

/-- No touch of deployments assigns. -/
lemma Deployments.Event.settled (deployments : Deployments) (event : Deployments.Event) :
    ∀ t ∈ (event.touches deployments : List (Touch α)), t.change.isAssign = false := by
  cases event <;> exact List.forall_mem_singleton.2 rfl

namespace Report

/-- A report to the probes of a scope over the store. -/
structure Occurrence where
  scope : Nat
  report : Report
  deriving DecidableEq, Repr

/-- The pool that a report is about. -/
def Occurrence.pool? (x : Occurrence) : Option Pool :=
  match x.report with
  | .pool type name size _ => some ⟨⟨x.scope, Hub.store⟩, type, name, size⟩
  | _ => none

/-- All pools of one type and name have one size. -/
def OneSize (xs : List Occurrence) : Prop :=
  ∀ x ∈ xs, ∀ y ∈ xs, ∀ pool ∈ x.pool?, ∀ pool' ∈ y.pool?,
    pool.type = pool'.type → pool.name = pool'.name → pool.size = pool'.size

instance (xs : List Occurrence) : Decidable (OneSize xs) :=
  inferInstanceAs (Decidable (∀ x ∈ xs, ∀ y ∈ xs, ∀ pool ∈ x.pool?, ∀ pool' ∈ y.pool?,
    pool.type = pool'.type → pool.name = pool'.name → pool.size = pool'.size))

/-- The pool of known size whose number of resources in use a report changes. -/
def Occurrence.shifted? (x : Occurrence) : Option Pool :=
  match x.report with
  | .pool type name size event =>
    if event.shifts ∧ size ≠ 0 then some ⟨⟨x.scope, Hub.store⟩, type, name, size⟩ else none
  | _ => none

section Runs

variable (policies : Nat → LabelPolicy)

/-- The hub after a report. -/
def Occurrence.perform (h : Hub ℚ) (x : Occurrence) : Hub ℚ :=
  x.report.perform ⟨x.scope, Hub.store⟩ (policies x.scope) h

/-- The touches that follow from a report to a hub. -/
def Occurrence.touches (h : Hub ℚ) (x : Occurrence) : List (Touch ℚ) :=
  x.report.touches ⟨x.scope, Hub.store⟩ (policies x.scope) h

/-- The timing that begins with a report. -/
def Occurrence.begun? (x : Occurrence) : Option Sample :=
  x.report.begun? ⟨x.scope, Hub.store⟩ (policies x.scope) (Hub.ofStore : Hub ℚ)

/-- The hub after a run over an empty store. -/
def run (xs : List Occurrence) : Hub ℚ :=
  xs.foldl (Occurrence.perform policies) Hub.ofStore

/-- The families of all categories in the scopes over the store. -/
abbrev families : Set Family := Family.catalogue Hub.store policies

/-- A timing that a report ends is bound to a timer of some category. -/
def Occurrence.Genuine (x : Occurrence) : Prop :=
  ∀ sample ∈ x.report.sample?, sample.family ∈ families policies ∧
    sample.family.template.kind = .timer

end Runs

variable {policies : Nat → LabelPolicy} {x : Occurrence} {xs ys : List Occurrence}

/-- What begins is timed by a timer. -/
lemma kind_of_begun {s : Scope} {policy : LabelPolicy} {h : Hub α} {report : Report} {sample : Sample}
    (begun : sample ∈ report.begun? s policy h) : sample.family.template.kind = .timer := by
  cases report with
  | httpClient localAddress event => cases event <;> cases begun; rfl
  | httpServer host port event => cases event <;> cases begun; rfl
  | eventBus event => cases event <;> cases begun; rfl
  | pool type name size event => cases event <;> cases begun <;> rfl
  | _ => cases begun

/-- Where all timings that end have begun, they are genuine. -/
lemma genuine_of_begun
    (begun : ∀ x ∈ xs, ∀ sample ∈ x.report.sample?, ∃ y ∈ xs, sample ∈ y.begun? policies)
    (mem : x ∈ xs) : x.Genuine policies := by
  intro sample ends
  obtain ⟨y, -, began⟩ := begun x mem sample ends
  obtain ⟨⟨⟨number, registry⟩, template⟩, values⟩ := sample
  obtain ⟨scope, template'⟩ := family_of_begun _ _ _ began
  cases scope
  exact ⟨⟨rfl, y.report.category, template'⟩, kind_of_begun began⟩

/-! ## The touches of a report -/

section Touches

variable {h : Hub ℚ} (genuine : x.Genuine policies)
include genuine

/-- All touches of a report are of the families and of the one registry. -/
lemma family_mem {t : Touch ℚ} (mem : t ∈ x.touches policies h) :
    t.family ∈ families policies ∧ t.registry ∈ ({Hub.store} : Set _) := by
  have family : t.family ∈ families policies := by
    rcases x.report.touches_belong _ _ h t mem with ⟨scope, template⟩ | ⟨sample, ends, family⟩
    · obtain ⟨⟨scope', template'⟩, values, change⟩ := t
      cases scope
      exact ⟨rfl, x.report.category, template⟩
    · rw [family]
      exact (genuine sample ends).1
  exact ⟨family, family.1⟩

omit genuine in
/-- The templates of a pool are those of its category. -/
lemma mem_namedPools {template : Template} (mem : template ∈ Pool.templates) :
    template ∈ Category.namedPools.templates ⟨0, Hub.store⟩ {} :=
  mem

/-- A gauge of a category is touched by reports of the category only. -/
lemma category_of_gauge {t : Touch ℚ} (mem : t ∈ x.touches policies h) {c : Category} {s : Scope}
    {policy : LabelPolicy} {template : Template} (of : template ∈ c.templates s policy)
    (gauge : template.kind = .gauge) (same : t.id.name = template.name) : x.report.category = c := by
  rcases x.report.touches_belong _ _ h t mem with ⟨-, touched⟩ | ⟨sample, ends, family⟩
  · exact (Category.eq_of_name touched of same).1
  · -- a timing that ends would be bound to a gauge
    obtain ⟨⟨-, c', timed⟩, timer⟩ := genuine sample ends
    have name : sample.family.template.name = template.name := by rw [← family]; exact same
    have kind := (Category.eq_of_name timed of name).2
    rw [timer, gauge] at kind
    cases kind

end Touches

/-- Reports that change the number of resources in use are the only ones that touch ratios. -/
lemma fits {scope : Nat} {type name : String} {size : UInt32} {event : Pool.Event}
    (genuine : Occurrence.Genuine policies ⟨scope, .pool type name size event⟩) :
    event.Fits (families policies) ⟨⟨scope, Hub.store⟩, type, name, size⟩ where
  mem template := ⟨rfl, .namedPools, template⟩
  timed {sample} ends := ⟨(genuine sample ends).1, (genuine sample ends).2, (genuine sample ends).1.1⟩

/-- Apart from ratios the touches do not depend on the hub. -/
lemma filter_touches (x : Occurrence) {id : MeterId} (other : id.name ≠ Pool.ratio.name)
    (h h' : Hub ℚ) :
    (x.touches policies h).filter (fun t => Hub.store = t.registry ∧ id = t.id) =
      (x.touches policies h').filter (fun t => Hub.store = t.registry ∧ id = t.id) := by
  obtain ⟨scope, report⟩ := x
  cases report with
  | pool type name size event =>
    let pool : Pool := ⟨⟨scope, Hub.store⟩, type, name, size⟩
    have ratio (level : ℚ) : (if event.shifts then pool.ratioFollows level else []).filter
        (fun t => Hub.store = t.registry ∧ id = t.id) = [] := by
      refine List.filter_eq_nil_iff.2 fun t mem here => ?_
      obtain ⟨-, rfl⟩ := of_decide_eq_true here
      split at mem
      · exact other (congrArg MeterId.name (Pool.id_of_ratioFollows mem).2)
      · cases mem
    simp only [Occurrence.touches, touches, Pool.Event.touches, List.filter_append]
    rw [ratio, ratio]
  | _ => rfl

/-- Apart from ratios no gauge is overridden. -/
lemma settled (x : Occurrence) {h : Hub ℚ} {t : Touch ℚ} (mem : t ∈ x.touches policies h)
    (other : t.id.name ≠ Pool.ratio.name) : t.change.isAssign = false := by
  obtain ⟨scope, report⟩ := x
  cases report with
  | netClient localAddress event => exact event.settled _ t mem
  | netServer host port event => exact event.settled _ t mem
  | httpClient localAddress event => exact event.settled _ t mem
  | httpServer host port event => exact event.settled _ t mem
  | datagramSocket address event => exact event.settled _ t mem
  | eventBus event => exact event.settled _ t mem
  | deployments event => exact event.settled _ t mem
  | pool type name size event =>
    have settled := event.settled (α := ℚ) ⟨⟨scope, Hub.store⟩, type, name, size⟩
    rcases List.mem_append.1 mem with mem | mem
    · rcases List.mem_append.1 mem with mem | mem
      · exact settled t (List.mem_append_left _ mem)
      · split at mem
        · exact absurd (congrArg MeterId.name (Pool.id_of_ratioFollows mem).2) other
        · cases mem
    · exact settled t (List.mem_append_right _ mem)

/-! ## Runs -/

section Steps

variable {h : Hub ℚ}

/-- A report performs its touches. -/
lemma perform_touches (h : Hub ℚ) (x : Occurrence) :
    x.perform policies h = h.perform (x.touches policies h) :=
  x.report.perform_eq _ _ h

/-- A hub stays sound when a genuine report is performed. -/
lemma sound_perform (sound : h.Sound (families policies) {Hub.store})
    (genuine : x.Genuine policies) : (x.perform policies h).Sound (families policies) {Hub.store} := by
  rw [perform_touches]
  exact sound.perform Family.apart_catalogue fun t mem => (family_mem genuine mem).1

/-- A meter changes with the touches that are its own. -/
lemma stateOf_perform (sound : h.Sound (families policies) {Hub.store})
    (genuine : x.Genuine policies) (id : MeterId) :
    (x.perform policies h).stateOf Hub.store id =
      ((x.touches policies h).filter fun t => Hub.store = t.registry ∧ id = t.id).foldl Touch.after
        (h.stateOf Hub.store id) := by
  rw [perform_touches]
  exact sound.stateOf_perform Family.apart_catalogue Family.concordant_catalogue
    (fun t mem => family_mem genuine mem) Hub.store id

/-- What a report does not touch stays as it is. -/
lemma stateOf_perform_other (sound : h.Sound (families policies) {Hub.store})
    (genuine : x.Genuine policies) {id : MeterId} (other : ∀ t ∈ x.touches policies h, t.id ≠ id) :
    (x.perform policies h).stateOf Hub.store id = h.stateOf Hub.store id := by
  rw [perform_touches]
  exact sound.stateOf_perform_other Family.apart_catalogue Family.concordant_catalogue
    (fun t mem => family_mem genuine mem) fun t mem _ same => other t mem same.symm

/-- The report of a pool whose ratio it touches. -/
lemma shifted_of_ratio (genuine : x.Genuine policies) {t : Touch ℚ}
    (mem : t ∈ x.touches policies h) (is : t.id.name = Pool.ratio.name) :
    ∃ pool ∈ x.shifted?, t.id = pool.ratioMeter := by
  have category : x.report.category = .namedPools :=
    category_of_gauge genuine mem (mem_namedPools (by simp [Pool.templates])) rfl is
  obtain ⟨scope, report⟩ := x
  cases report with
  | pool type name size event =>
    obtain ⟨shifts, known, id⟩ :=
      Pool.ratio_touch (fits genuine) Family.concordant_catalogue mem is
    exact ⟨_, if_pos ⟨shifts, known⟩, id⟩
  | _ => cases category

/-- A report that touches the number of resources in use also changes the ratio, if there is one. -/
lemma shifted_of_inUse (genuine : x.Genuine policies) {t : Touch ℚ}
    (mem : t ∈ x.touches policies h) {pool : Pool} (is : t.id = pool.inUseMeter) :
    ∃ pool' ∈ x.pool?, pool'.values = pool.values ∧ (pool'.size ≠ 0 → pool' ∈ x.shifted?) := by
  have same : t.id.name = Pool.inUse.name := congrArg MeterId.name is
  have category : x.report.category = .namedPools :=
    category_of_gauge genuine mem (mem_namedPools (by simp [Pool.templates])) rfl same
  obtain ⟨scope, report⟩ := x
  cases report with
  | pool type name size event =>
    obtain ⟨shifts, id⟩ := Pool.inUse_touch (fits genuine) Family.concordant_catalogue mem same
    exact ⟨_, rfl, Pool.inUseMeter_eq_iff.1 (id.symm.trans is),
      fun known => if_pos ⟨shifts, known⟩⟩
  | _ => cases category

/-- Where a report changes the number of resources in use, the ratio is that of the resources in
use. -/
lemma ratio_follows (sound : h.Sound (families policies) {Hub.store})
    (genuine : x.Genuine policies) {pool : Pool} (shifted : pool ∈ x.shifted?) :
    (x.perform policies h).stateOf Hub.store pool.ratioMeter =
      some (.gauge (Reading.amount.of (x.perform policies h) Hub.store pool.inUseMeter /
        pool.size.toNat)) := by
  obtain ⟨scope, report⟩ := x
  cases report with
  | pool type name size event =>
    obtain ⟨⟨shifts, known⟩, same⟩ := Option.ite_none_right_eq_some.1 shifted
    cases same
    exact Pool.ratio_follows sound Family.apart_catalogue Family.concordant_catalogue (fits genuine)
      shifts known
  | _ => cases shifted

/-- A pool whose level shifts has a size. -/
lemma pool_of_shifted {pool : Pool} (shifted : pool ∈ x.shifted?) :
    pool ∈ x.pool? ∧ pool.size ≠ 0 := by
  obtain ⟨scope, report⟩ := x
  cases report with
  | pool type name size event =>
    obtain ⟨⟨-, known⟩, same⟩ := Option.ite_none_right_eq_some.1 shifted
    cases same
    exact ⟨rfl, known⟩
  | _ => cases shifted

end Steps

/-- A run takes its last report last. -/
lemma run_snoc (xs : List Occurrence) (x : Occurrence) :
    run policies (xs ++ [x]) = x.perform policies (run policies xs) :=
  List.foldl_append ..

variable (genuine : ∀ x ∈ xs, x.Genuine policies)
include genuine

/-- The hub is sound after every run. -/
lemma sound_run : (run policies xs).Sound (families policies) {Hub.store} := by
  induction xs using List.reverseRecOn with
  | nil => exact Hub.sound_ofStore
  | append_singleton xs x ih =>
    rw [run_snoc]
    exact sound_perform (ih fun y mem => genuine y (List.mem_append_left _ mem))
      (genuine x (List.mem_append_right _ (List.mem_singleton_self x)))

/-! ## The order of reports -/

/-- Apart from ratios the touches of each meter come one after another. -/
lemma stateOf_run {id : MeterId} (other : id.name ≠ Pool.ratio.name) :
    (run policies xs).stateOf Hub.store id =
      ((xs.flatMap (Occurrence.touches policies Hub.ofStore)).filter
        fun t => Hub.store = t.registry ∧ id = t.id).foldl Touch.after none := by
  induction xs using List.reverseRecOn with
  | nil => rfl
  | append_singleton xs x ih =>
    have genuine' : ∀ y ∈ xs, y.Genuine policies := fun y mem =>
      genuine y (List.mem_append_left _ mem)
    rw [run_snoc, stateOf_perform (sound_run genuine')
        (genuine x (List.mem_append_right _ (List.mem_singleton_self x))), ih genuine',
      filter_touches x other _ Hub.ofStore, List.flatMap_append, List.flatMap_singleton,
      List.filter_append, List.foldl_append]

/-- Apart from ratios the order of reports does not matter. -/
lemma stateOf_run_perm (perm : xs.Perm ys) {id : MeterId} (other : id.name ≠ Pool.ratio.name) :
    (run policies xs).stateOf Hub.store id = (run policies ys).stateOf Hub.store id := by
  have genuine' : ∀ y ∈ ys, y.Genuine policies := fun y mem => genuine y (perm.mem_iff.2 mem)
  have touched {t : Touch ℚ} (mem : t ∈ (xs.flatMap (Occurrence.touches policies Hub.ofStore)).filter
      fun t => Hub.store = t.registry ∧ id = t.id) :
      t.family ∈ families policies ∧ t.id = id ∧ t.change.isAssign = false := by
    obtain ⟨flat, here⟩ := List.mem_filter.1 mem
    obtain ⟨-, same⟩ := of_decide_eq_true here
    obtain ⟨x, mem, touch⟩ := List.mem_flatMap.1 flat
    exact ⟨(family_mem (genuine x mem) touch).1, same.symm, settled x touch (same ▸ other)⟩
  rw [stateOf_run genuine other, stateOf_run genuine' other]
  refine Touch.foldl_after_perm ((perm.flatMap_right _).filter _) (fun t mem u mem' => ?_)
    (fun t mem => (touched mem).2.2) none
  obtain ⟨hf, id, -⟩ := touched mem
  obtain ⟨hf', id', -⟩ := touched mem'
  exact Family.concordant_catalogue _ hf _ hf' (hf.1.trans hf'.1.symm)
    (congrArg MeterId.name (id.trans id'.symm))

/-- Ratios that no report changes do not exist. -/
lemma ratio_unset {id : MeterId} (is : id.name = Pool.ratio.name)
    (unset : ∀ x ∈ xs, ∀ pool ∈ x.shifted?, pool.ratioMeter ≠ id) :
    (run policies xs).stateOf Hub.store id = none := by
  induction xs using List.reverseRecOn with
  | nil => rfl
  | append_singleton xs x ih =>
    obtain ⟨unset', last⟩ := List.forall_mem_append.1 unset
    obtain ⟨genuine', genuineₓ⟩ := List.forall_mem_append.1 genuine
    have unset := List.forall_mem_singleton.1 last
    have genuine := List.forall_mem_singleton.1 genuineₓ
    rw [run_snoc, stateOf_perform_other (sound_run genuine') genuine, ih genuine' unset']
    rintro t mem rfl
    obtain ⟨pool, shifted, id⟩ := shifted_of_ratio genuine mem is
    exact unset pool shifted id.symm

/-- A ratio that some report has changed is that of the resources in use in the end. -/
lemma ratio_run (sizes : OneSize xs) (mem : x ∈ xs) {pool : Pool} (shifted : pool ∈ x.shifted?) :
    (run policies xs).stateOf Hub.store pool.ratioMeter =
      some (.gauge (Reading.amount.of (run policies xs) Hub.store pool.inUseMeter /
        pool.size.toNat)) := by
  induction xs using List.reverseRecOn with
  | nil => cases mem
  | append_singleton xs y ih =>
    obtain ⟨genuine', genuineₓ⟩ := List.forall_mem_append.1 genuine
    have genuine := List.forall_mem_singleton.1 genuineₓ
    have sound := sound_run genuine'
    have last : y ∈ xs ++ [y] := List.mem_append_right _ (List.mem_singleton_self y)
    rw [run_snoc]
    -- the last report sets the ratio anew, or it leaves both the ratio and the resources in use
    by_cases here : ∃ pool' ∈ y.shifted?, pool'.ratioMeter = pool.ratioMeter
    · obtain ⟨pool', shifted', same⟩ := here
      obtain ⟨values, size⟩ := Pool.ratioMeter_eq_iff.1 same
      rw [← same, ← Pool.inUseMeter_eq_iff.2 values, ← size]
      exact ratio_follows sound genuine shifted'
    · have earlier : x ∈ xs := by
        rcases List.mem_append.1 mem with earlier | now
        · exact earlier
        · rw [List.mem_singleton.1 now] at shifted
          exact absurd ⟨pool, shifted, rfl⟩ here
      have ratio : ∀ t ∈ y.touches policies (run policies xs), t.id ≠ pool.ratioMeter := by
        intro t touched is
        obtain ⟨pool', shifted', id⟩ := shifted_of_ratio genuine touched (by rw [is]; rfl)
        exact here ⟨pool', shifted', id.symm.trans is⟩
      have inUse : ∀ t ∈ y.touches policies (run policies xs), t.id ≠ pool.inUseMeter := by
        intro t touched is
        obtain ⟨pool', pool_mem', values, shifted'⟩ := shifted_of_inUse genuine touched is
        obtain ⟨pool_mem, known⟩ := pool_of_shifted shifted
        have size : pool.size = pool'.size := by
          obtain ⟨type, name⟩ : pool'.type = pool.type ∧ pool'.name = pool.name := by
            simpa [Pool.values] using values
          exact sizes x mem y last pool pool_mem pool' pool_mem' type.symm name.symm
        exact here ⟨pool', shifted' (size ▸ known),
          Pool.ratioMeter_eq_iff.2 ⟨values, size.symm⟩⟩
      have stays : Reading.amount.of (y.perform policies (run policies xs)) Hub.store
          pool.inUseMeter = Reading.amount.of (run policies xs) Hub.store pool.inUseMeter := by
        rw [Reading.of, Reading.of, stateOf_perform_other sound genuine inUse]
      rw [stays, stateOf_perform_other sound genuine ratio]
      exact ih genuine' (fun x mem y mem' => sizes x (List.mem_append_left _ mem) y
        (List.mem_append_left _ mem')) earlier

/-- The order of reports does not matter, if every timing that ends is that of a timer and pools of
one type and name have one size. -/
theorem run_perm (perm : xs.Perm ys) (sizes : OneSize xs) (id : MeterId) :
    (run policies xs).stateOf Hub.store id = (run policies ys).stateOf Hub.store id := by
  have genuine' : ∀ y ∈ ys, y.Genuine policies := fun y mem => genuine y (perm.mem_iff.2 mem)
  by_cases is : id.name = Pool.ratio.name
  · by_cases set_ : ∃ x ∈ xs, ∃ pool ∈ x.shifted?, pool.ratioMeter = id
    · obtain ⟨x, mem, pool, shifted, rfl⟩ := set_
      have sizes' : OneSize ys := fun x mem y mem' =>
        sizes x (perm.mem_iff.2 mem) y (perm.mem_iff.2 mem')
      have inUse : Reading.amount.of (run policies xs) Hub.store pool.inUseMeter =
          Reading.amount.of (run policies ys) Hub.store pool.inUseMeter := by
        rw [Reading.of, Reading.of, stateOf_run_perm genuine perm
          (show Pool.inUse.name ≠ Pool.ratio.name by decide)]
      rw [ratio_run genuine sizes mem shifted, ratio_run genuine' sizes' (perm.mem_iff.1 mem) shifted,
        inUse]
    · rw [ratio_unset genuine is fun x mem pool shifted same => set_ ⟨x, mem, pool, shifted, same⟩,
        ratio_unset genuine' is fun x mem pool shifted same =>
          set_ ⟨x, perm.mem_iff.2 mem, pool, shifted, same⟩]
  · exact stateOf_run_perm genuine perm is

end Report

end Metering
