import Metering.Proofs.Hub.State
import Metering.Proofs.Monitor.Directory
import Metering.Proofs.Probe.Event

/-!
# Worlds

A directory with the monitors that were set up through it (`World`) and what can happen to them, in
any order (`Operation`). The invariant `World.Sound` ties the directory to the hub: an entry has
never been closed, so that its registry was never cleared, and no two monitors share a scope.
`World.Sound.step` says that every operation keeps it and `World.sound_run` that every run does.
-/

namespace Metering

namespace Monitor

/-- The families of the categories that a monitor measures. -/
def Has (m : Monitor) (f : Family) : Prop :=
  f.scope = m.scope ∧ ∃ c ∈ m.enabledCategories, f.template ∈ c.templates m.scope m.labels

instance (m : Monitor) (f : Family) : Decidable (m.Has f) :=
  inferInstanceAs (Decidable (_ ∧ _))

variable {α : Type} [Amount α]

/-- The hub after a report to what a monitor hands out. What is switched off is not handed out, and
nobody reports to it. -/
def receive (m : Monitor) (h : Hub α) : Report → Hub α
  | .netClient localAddress event =>
    (m.netClient localAddress).elim h fun client => h.perform (event.touches client)
  | .netServer host port event =>
    (m.netServer host port).elim h fun server => h.perform (event.touches server)
  | .httpClient localAddress event =>
    (m.httpClient localAddress).elim h fun client => h.perform (event.touches client)
  | .httpServer host port event =>
    (m.httpServer host port).elim h fun server => h.perform (event.touches server)
  | .datagramSocket address event =>
    m.datagramSocket.elim h fun socket =>
      h.perform (event.touches (address.elim socket fun a => socket.listening a.1 a.2))
  | .eventBus event => m.eventBus.elim h fun bus => h.perform (event.touches bus)
  | .pool type name size event => (m.pool type name size).elim h (event.perform · h)
  | .deployments event => m.deployments.elim h fun deployments =>
      h.perform (event.touches deployments)

/-- What is handed out reports to the probes of the monitor's scope. -/
lemma receive_eq (m : Monitor) (h : Hub α) (report : Report) :
    m.receive h report =
      if m.isEnabled report.category then report.perform m.scope m.labels h else h := by
  have handed {β : Type} (c : Category) (probe : β) (after : β → Hub α) :
      (m.handOut c probe).elim h after = if m.isEnabled c then after probe else h := by
    rw [handOut]
    split <;> rfl
  cases report with
  | datagramSocket address event =>
    refine (handed _ _ _).trans ?_
    cases address <;> rfl
  | _ => exact handed _ _ _

/-- The touches that a monitor makes at a report. -/
def touches (m : Monitor) (h : Hub α) (report : Report) : List (Touch α) :=
  if m.isEnabled report.category then report.touches m.scope m.labels h else []

/-- A monitor that receives a report performs its touches. -/
lemma receive_eq_perform (m : Monitor) (h : Hub α) (report : Report) :
    m.receive h report = h.perform (m.touches h report) := by
  rw [receive_eq, touches]
  split
  · exact report.perform_eq m.scope m.labels h
  · rfl

/-- A report touches families of the monitor, or one that a timing has begun for. -/
lemma touches_belong (m : Monitor) (h : Hub α) (report : Report) :
    ∀ t ∈ m.touches h report, m.Has t.family ∨ ∃ x ∈ report.sample?, t.family = x.family := by
  rw [touches]
  split
  case isTrue enabled =>
    refine fun t mem => (report.touches_belong m.scope m.labels h t mem).imp_left ?_
    rintro ⟨scope, template⟩
    exact ⟨scope, report.category, List.mem_filter.2 ⟨report.category.mem_all, enabled⟩, template⟩
  case isFalse => exact List.forall_mem_nil _

end Monitor

/-- A directory with its site, and the monitors that were set up so far. -/
structure World (α : Type) where
  directory : Directory
  site : Site α
  monitors : List Monitor

/-- What can happen. Monitors are known by their place among all that were set up. -/
inductive Operation where
  /-- A monitor is set up. -/
  | setup (around : Surroundings) (options : Options)
  /-- A backend is set up without a monitor. -/
  | setupBackend (around : Surroundings) (name : String) (options : BackendOptions)
  /-- An application reports to its monitor. -/
  | report (monitor : Nat) (report : Report)
  /-- A pushing backend pushes what it lists. -/
  | publish (backend : BackendRef) (timestamp : Int)
  /-- A monitor is closed. Its application may go on reporting. -/
  | close (monitor : Nat) (timestamp : Int)
  | stop (name : String) (timestamp : Int)
  | stopAll (timestamp : Int)

namespace World

variable {α : Type}

/-- The world without anything. -/
def empty : World α := ⟨.empty, .empty, []⟩

/-- The world with directory and site replaced. -/
def withState (w : World α) (state : Directory × Site α) : World α :=
  ⟨state.1, state.2, w.monitors⟩

/-- The world with its hub replaced. -/
def withHub (w : World α) (hub : Hub α) : World α :=
  { w with site := { w.site with hub } }

/-- Whether a timing that a report ends is one of some monitor. -/
def Accepts (w : World α) (report : Report) : Prop :=
  ∀ x ∈ report.sample?, ∃ m ∈ w.monitors, m.Has x.family

instance (w : World α) (report : Report) : Decidable (w.Accepts report) :=
  inferInstanceAs (Decidable (∀ x ∈ report.sample?, ∃ m ∈ w.monitors, m.Has x.family))

/-- The families of all monitors. -/
def families (w : World α) : Set Family :=
  {f | ∃ m ∈ w.monitors, m.Has f}

/-- The registries of the entries of the directory, apart from those that list nothing. -/
def live (w : World α) : Set RegistryRef :=
  {r | ∃ name b k, w.directory.get? name = some b ∧ w.site.profile? b = some (r, k) ∧
    k ≠ .disabled}

section
variable [Amount α]

/-- The world after an operation. What cannot happen changes nothing. -/
def step (w : World α) : Operation → World α
  | .setup around options =>
    match Monitor.setup w.directory w.site around options with
    | .ok (m, state) => { w with monitors := w.monitors ++ [m] }.withState state
    | .error _ => w
  | .setupBackend around name options =>
    match w.directory.setup w.site around name options with
    | .ok (_, state) => w.withState state
    | .error _ => w
  | .report monitor report =>
    match w.monitors[monitor]? with
    | some m => if w.Accepts report then w.withHub (m.receive w.site.hub report) else w
    | none => w
  | .publish backend timestamp => { w with site := (w.site.publish backend timestamp).2 }
  | .close monitor timestamp =>
    match w.monitors[monitor]? with
    | some m => w.withState (m.close w.directory w.site timestamp)
    | none => w
  | .stop name timestamp => w.withState (w.directory.stop w.site name timestamp)
  | .stopAll timestamp => w.withState (w.directory.stopAll w.site timestamp)

/-- The world after some operations. -/
def run (ops : List Operation) : World α :=
  ops.foldl step empty

end

/-- What holds of a world whatever has happened. -/
structure Sound (w : World α) : Prop where
  hub : w.site.hub.Sound w.families w.live
  /-- Monitors have scopes of their own. -/
  apart {m m'} : m ∈ w.monitors → m' ∈ w.monitors → m.scope.number = m'.scope.number → m = m'
  scope_lt {m} : m ∈ w.monitors → m.scope.number < w.site.hub.scopes
  slot_lt {p} : p ∈ w.site.hub.slots → p.1.scope < w.site.hub.scopes
  /-- The scope of a monitor is over the registry of its backend. -/
  backed {m} : m ∈ w.monitors → ∃ k, w.site.profile? m.backend = some (m.scope.registry, k)
  registry_lt {b r k} : w.site.profile? b = some (r, k) → r.index < w.site.hub.registries.size
  /-- Backends have registries of their own. -/
  registry_inj {b b' r k k'} : w.site.profile? b = some (r, k) →
    w.site.profile? b' = some (r, k') → b = b'
  entry {name b} : w.directory.get? name = some b → (w.site.profile? b).isSome
  /-- A backend has one name. -/
  entry_inj {name name' b} : w.directory.get? name = some b →
    w.directory.get? name' = some b → name = name'

namespace Sound

variable {d d' : Directory} {s s' : Site α} {ms : List Monitor} {w : World α}

/-- No two monitors of a sound world share a family. -/
lemma families_apart (sound : w.Sound) : Family.Apart w.families := by
  rintro ⟨s, t⟩ ⟨m, mem, scope, c, -, template⟩ ⟨s', t'⟩ ⟨m', mem', scope', c', -, template'⟩
    number name
  cases scope
  cases scope'
  obtain rfl := sound.apart mem mem' number
  cases Category.template_eq_of_name template template' name
  rfl

/-- Families of one name are of one kind, whatever the label policies of the monitors. -/
lemma families_concordant (w : World α) : Family.Concordant w.families := by
  refine Family.concordant_of_category ?_
  rintro f ⟨m, -, scope, c, -, template⟩
  refine ⟨c, m.labels, ?_⟩
  rw [Family.OfCategory, scope]
  exact template

/-- The empty world is sound. -/
lemma empty : (World.empty : World α).Sound where
  hub := by
    have sound := (Hub.Sound.empty : (Hub.empty : Hub α).Sound (World.empty : World α).families ∅)
    refine sound.restrict ?_
    rintro r ⟨name, b, k, entry, -⟩
    cases entry
  apart mem := nomatch mem
  scope_lt mem := nomatch mem
  slot_lt mem := nomatch mem
  backed mem := nomatch mem
  registry_lt profile := nomatch profile
  registry_inj profile := nomatch profile
  entry found := nomatch found
  entry_inj found := nomatch found

/-! ## Stopping -/

/-- What a site exports does not matter. -/
lemma alike (sound : (World.mk d s ms).Sound) (alike : s.Alike s') : (World.mk d s' ms).Sound := by
  have live : (World.mk d s' ms).live = (World.mk d s ms).live := by
    simp only [World.live, alike.profile?]
  exact
    { hub := by
        rw [live, alike.hub]
        exact sound.hub
      apart := sound.apart
      scope_lt := alike.hub ▸ sound.scope_lt
      slot_lt := alike.hub ▸ sound.slot_lt
      backed := fun mem => by
        rw [alike.profile?]
        exact sound.backed mem
      registry_lt := fun profile => by
        rw [alike.profile?] at profile
        rw [alike.hub]
        exact sound.registry_lt profile
      registry_inj := fun profile profile' => by
        rw [alike.profile?] at profile profile'
        exact sound.registry_inj profile profile'
      entry := fun found => by
        rw [alike.profile?]
        exact sound.entry found
      entry_inj := sound.entry_inj }

/-- A name is forgotten, and its backend may let go of its meters. -/
lemma leave (sound : (World.mk d s ms).Sound) {name : String} {b : BackendRef}
    (found : d.get? name = some b) :
    (World.mk (d.erase name) { s with hub := s.released b } ms).Sound := by
  have sub : (World.mk (d.erase name) s ms).live ⊆ (World.mk d s ms).live := by
    rintro r ⟨n, b', k, found', rest⟩
    exact ⟨n, b', k, (Directory.of_get?_erase found').2, rest⟩
  -- no other name stands for the backend, so that its registry is not live any more
  have gone {r k} (profile : s.profile? b = some (r, k)) :
      r ∉ (World.mk (d.erase name) s ms).live := by
    rintro ⟨n, b', k', found', profile', -⟩
    obtain rfl := sound.registry_inj profile profile'
    obtain ⟨other, entry⟩ := Directory.of_get?_erase found'
    exact other (sound.entry_inj entry found)
  have rest : (s.released b).Sound (World.mk d s ms).families
        (World.mk (d.erase name) s ms).live ∧
      (s.released b).scopes = s.hub.scopes ∧ (s.released b).slots = s.hub.slots ∧
      (s.released b).registries.size = s.hub.registries.size := by
    rcases s.released_eq b with eq | ⟨r, k, profile, eq⟩
    · rw [eq]
      exact ⟨sound.hub.restrict sub, rfl, rfl, rfl⟩
    · rw [eq]
      refine ⟨(sound.hub.clear r).restrict fun r' live => ⟨sub live, ?_⟩, rfl, rfl,
        Array.size_modify ..⟩
      rintro rfl
      exact gone profile live
  obtain ⟨hub, scopes, slots, size⟩ := rest
  exact
    { hub := hub
      apart := sound.apart
      scope_lt := fun mem => scopes ▸ sound.scope_lt mem
      slot_lt := fun mem => by
        rw [scopes]
        exact sound.slot_lt (slots ▸ mem)
      backed := sound.backed
      registry_lt := fun profile => size ▸ sound.registry_lt profile
      registry_inj := sound.registry_inj
      entry := fun found' => sound.entry (Directory.of_get?_erase found').2
      entry_inj := fun found' found'' =>
        sound.entry_inj (Directory.of_get?_erase found').2 (Directory.of_get?_erase found'').2 }

/-! ## Setting up -/

section Build

variable {b : BackendRef} {registry : Registry} {k : BackendKind}

/-- The registry that is added is not that of a backend before. -/
lemma registry_ne (sound : (World.mk d s ms).Sound) {b' : BackendRef} {r : RegistryRef}
    {k' : BackendKind} (profile : s.profile? b' = some (r, k')) :
    r ≠ (s.hub.addRegistry registry).1 := by
  rintro rfl
  exact Nat.lt_irrefl _ (sound.registry_lt profile)

/-- A live registry is the added one or was live before. -/
lemma live_extends (more : s.Extends s' b registry k) {name : String} {r : RegistryRef}
    (live : r ∈ (World.mk ⟨(name, b) :: d.entries⟩ s' ms).live) :
    r = (s.hub.addRegistry registry).1 ∧ k ≠ .disabled ∨ r ∈ (World.mk d s ms).live := by
  obtain ⟨n, b', k', entry, profile, enabled⟩ := live
  rcases more.back profile with ⟨-, eq⟩ | old
  · cases eq
    exact .inl ⟨rfl, enabled⟩
  · rcases Directory.of_get?_cons entry with ⟨-, rfl⟩ | entry
    · exact absurd rfl (more.ne old)
    · exact .inr ⟨n, b', k', entry, old, enabled⟩

/-- No monitor is over the new registry yet, so that it was never cleared. -/
lemma hub_extends (sound : (World.mk d s ms).Sound) (more : s.Extends s' b registry k)
    (name : String) :
    s'.hub.Sound (World.mk d s ms).families (World.mk ⟨(name, b) :: d.entries⟩ s' ms).live := by
  have added : s'.hub.Sound (World.mk d s ms).families (World.mk d s ms).live := by
    rw [more.hub]
    exact sound.hub.addRegistry more.nothing
  by_cases enabled : k = .disabled
  · refine added.restrict fun r live => ?_
    exact (live_extends more live).resolve_left fun both => both.2 enabled
  · refine (added.live (r := (s.hub.addRegistry registry).1) ?_ ?_).restrict fun r live => ?_
    · rw [more.hub, Hub.registry_addRegistry, if_pos rfl]
      exact more.store enabled
    · rintro f ⟨m, mem, scope, -⟩ eq
      obtain ⟨k', profile⟩ := sound.backed mem
      exact absurd (scope ▸ eq) (sound.registry_ne profile)
    · exact (live_extends more live).imp_left And.left

/-- A new backend is entered under a name. -/
lemma extend (sound : (World.mk d s ms).Sound) (more : s.Extends s' b registry k) (name : String) :
    (World.mk ⟨(name, b) :: d.entries⟩ s' ms).Sound := by
  have size : s'.hub.registries.size = s.hub.registries.size + 1 := by
    rw [more.hub]
    exact Array.size_push ..
  have unused {n} : d.get? n ≠ some b := by
    intro entry
    have known := sound.entry entry
    rw [more.new] at known
    cases known
  exact
    { hub := sound.hub_extends more name
      apart := sound.apart
      scope_lt := more.hub ▸ sound.scope_lt
      slot_lt := more.hub ▸ sound.slot_lt
      backed := fun mem => (sound.backed mem).imp fun _ => more.keep
      registry_lt := fun profile => by
        rw [size]
        rcases more.back profile with ⟨-, eq⟩ | old
        · cases eq
          exact Nat.lt_succ_self _
        · exact Nat.lt_succ_of_lt (sound.registry_lt old)
      -- the new registry is at an index that no backend before has
      registry_inj := fun profile profile' => by
        rcases more.back profile with ⟨new, eq⟩ | old
        · cases eq
          rcases more.back profile' with ⟨new', -⟩ | old'
          · exact new.trans new'.symm
          · exact absurd rfl (sound.registry_ne old')
        · rcases more.back profile' with ⟨-, eq⟩ | old'
          · cases eq
            exact absurd rfl (sound.registry_ne old)
          · exact sound.registry_inj old old'
      entry := fun entry => by
        rw [more.profile?]
        split
        case isTrue => rfl
        case isFalse other =>
          rcases Directory.of_get?_cons entry with ⟨-, eq⟩ | old
          · exact absurd eq other
          · exact sound.entry old
      entry_inj := fun entry entry' => by
        rcases Directory.of_get?_cons entry with ⟨eq, here⟩ | old
        · rcases Directory.of_get?_cons entry' with ⟨eq', -⟩ | old'
          · exact eq.trans eq'.symm
          · exact absurd (here ▸ old') unused
        · rcases Directory.of_get?_cons entry' with ⟨-, here⟩ | old'
          · exact absurd (here ▸ old) unused
          · exact sound.entry_inj old old' }

end Build

/-- A monitor takes a scope of its own over the registry of its backend. -/
lemma join (sound : (World.mk d s ms).Sound) {m : Monitor} {k : BackendKind}
    (profile : s.profile? m.backend = some (m.scope.registry, k))
    (number : m.scope.number = s.hub.scopes) :
    (World.mk d { s with hub := { s.hub with scopes := s.hub.scopes + 1 } } (ms ++ [m])).Sound := by
  have mem {m'} (mem : m' ∈ ms ++ [m]) : m' ∈ ms ∨ m' = m :=
    (List.mem_append.1 mem).imp_right List.mem_singleton.1
  exact
    { hub := by
        refine (sound.hub.scopes (s.hub.scopes + 1)).mono ?_ ?_
        · rintro f ⟨m', mem', has⟩
          exact ⟨m', List.mem_append_left _ mem', has⟩
        · rintro f ⟨m', mem', has⟩ new vs
          rcases mem mem' with old | rfl
          · exact absurd ⟨m', old, has⟩ new
          · cases kept : s.hub.kept? f vs with
            | none => exact kept
            | some n =>
              -- no slot is of the new scope
              have lt : f.scope.number < s.hub.scopes :=
                sound.slot_lt (Hub.mem_slots_of_kept? kept)
              rw [has.1, number] at lt
              exact absurd lt (Nat.lt_irrefl _)
      -- the scope of the new monitor has a number that no other one has
      apart := fun mem₁ mem₂ eq => by
        rcases mem mem₁ with old₁ | rfl
        · rcases mem mem₂ with old₂ | rfl
          · exact sound.apart old₁ old₂ eq
          · have lt := sound.scope_lt old₁
            exact absurd (eq.trans number) (Nat.ne_of_lt lt)
        · rcases mem mem₂ with old₂ | rfl
          · have lt := sound.scope_lt old₂
            exact absurd (eq.symm.trans number) (Nat.ne_of_lt lt)
          · rfl
      scope_lt := fun mem' => by
        rcases mem mem' with old | rfl
        · exact Nat.lt_succ_of_lt (sound.scope_lt old)
        · exact number ▸ Nat.lt_succ_self _
      slot_lt := fun mem => Nat.lt_succ_of_lt (sound.slot_lt mem)
      backed := fun mem' => by
        rcases mem mem' with old | rfl
        · exact sound.backed old
        · exact ⟨k, profile⟩
      registry_lt := sound.registry_lt
      registry_inj := sound.registry_inj
      entry := sound.entry
      entry_inj := sound.entry_inj }

/-- A world stays sound when a backend is set up, and the backend is found. -/
lemma setupBackend (sound : (World.mk d s ms).Sound) {around : Surroundings} {name : String}
    {o : BackendOptions} {b : BackendRef} (ok : d.setup s around name o = .ok (b, d', s')) :
    (World.mk d' s' ms).Sound ∧ d'.get? name = some b := by
  rcases Directory.setup_inv ok with ⟨found, rfl, rfl⟩ | ⟨-, rfl, built⟩
  · exact ⟨sound, found⟩
  · obtain ⟨registry, k, more⟩ := Site.build_inv built
    exact ⟨sound.extend more name, by rw [Directory.get?_cons, if_pos rfl]⟩

/-- A world stays sound when a monitor is set up. -/
lemma setup (sound : (World.mk d s ms).Sound) {around : Surroundings} {o : Options} {m : Monitor}
    (ok : Monitor.setup d s around o = .ok (m, d', s')) : (World.mk d' s' (ms ++ [m])).Sound := by
  obtain ⟨s'', ok', scope, rfl⟩ := Monitor.setup_inv ok
  obtain ⟨sound', found⟩ := sound.setupBackend ok'
  obtain ⟨backend, there⟩ := Option.isSome_iff_exists.1 (sound'.entry found)
  obtain ⟨backend', there', rfl⟩ := Option.map_eq_some_iff.1 there
  refine sound'.join (k := backend'.kind) ?_ (by rw [scope])
  rw [scope, there', there]
  rfl

/-! ## Reports -/

variable [Amount α]

/-- What a monitor receives touches families of monitors. -/
lemma receive (sound : w.Sound) {ts : List (Touch α)} (hts : ∀ t ∈ ts, t.family ∈ w.families) :
    (w.withHub (w.site.hub.perform ts)).Sound := by
  obtain ⟨scopes, size, slots⟩ := w.site.hub.perform_bounds ts
  exact
    { hub := sound.hub.perform sound.families_apart hts
      apart := sound.apart
      scope_lt := fun mem => by
        rw [World.withHub, scopes]
        exact sound.scope_lt mem
      slot_lt := fun {p} mem => by
        rw [World.withHub, scopes]
        rcases slots p mem with old | ⟨t, touched, eq⟩
        · exact sound.slot_lt old
        · obtain ⟨m, mem', has⟩ := hts t touched
          rw [eq, has.1]
          exact sound.scope_lt mem'
      backed := sound.backed
      registry_lt := fun profile => by
        rw [World.withHub, size]
        exact sound.registry_lt profile
      registry_inj := sound.registry_inj
      entry := sound.entry
      entry_inj := sound.entry_inj }

/-- What a report touches is of some monitor's families. -/
lemma touches_mem {m : Monitor} (mem : m ∈ w.monitors) {report : Report}
    (accepts : w.Accepts report) : ∀ t ∈ m.touches w.site.hub report, t.family ∈ w.families := by
  intro t touched
  rcases m.touches_belong w.site.hub report t touched with has | ⟨x, ends, eq⟩
  · exact ⟨m, mem, has⟩
  · rw [eq]
    exact accepts x ends

/-! ## Operations -/

/-- A world stays sound when a name is stopped. -/
lemma stop (sound : w.Sound) (name : String) (timestamp : Int) :
    (w.withState (w.directory.stop w.site name timestamp)).Sound := by
  unfold Directory.stop
  cases found : w.directory.get? name with
  | none => exact sound
  | some b => exact (sound.leave found).alike (w.site.close_alike b timestamp)

/-- A world stays sound when names are stopped one after another. -/
lemma stopEach (sound : w.Sound) (names : List String) (timestamp : Int) :
    (w.withState (Directory.stopEach timestamp names (w.directory, w.site))).Sound := by
  induction names generalizing w with
  | nil => exact sound
  | cons name names ih => exact ih (sound.stop name timestamp)

/-- Whatever happens, the world stays sound. -/
theorem step (sound : w.Sound) (op : Operation) : (w.step op).Sound := by
  cases op with
  | setup around options =>
    cases ok : Monitor.setup w.directory w.site around options with
    | error e => simpa only [World.step, ok] using sound
    | ok result =>
      simp only [World.step, ok]
      exact sound.setup ok
  | setupBackend around name options =>
    cases ok : w.directory.setup w.site around name options with
    | error e => simpa only [World.step, ok] using sound
    | ok result =>
      simp only [World.step, ok]
      exact (sound.setupBackend ok).1
  | report monitor report =>
    cases found : w.monitors[monitor]? with
    | none => simpa only [World.step, found] using sound
    | some m =>
      by_cases accepts : w.Accepts report
      · have touched := touches_mem (List.mem_of_getElem? found) accepts
        simpa only [World.step, found, if_pos accepts, m.receive_eq_perform] using
          sound.receive touched
      · simpa only [World.step, found, if_neg accepts] using sound
  | publish backend timestamp => exact sound.alike (w.site.publish_alike backend timestamp)
  | close monitor timestamp =>
    cases found : w.monitors[monitor]? with
    | none => simpa only [World.step, found] using sound
    | some m =>
      simp only [World.step, found]
      exact sound.stop m.registryName timestamp
  | stop name timestamp => exact sound.stop name timestamp
  | stopAll timestamp => exact sound.stopEach w.directory.names timestamp

end Sound

/-- Every run leads to a sound world. -/
theorem sound_run [Amount α] (ops : List Operation) : (run ops : World α).Sound := by
  have run (w : World α) (sound : w.Sound) : (ops.foldl step w).Sound := by
    induction ops generalizing w with
    | nil => exact sound
    | cons op ops ih => exact ih (w.step op) (sound.step op)
  exact run empty Sound.empty

end World

end Metering
