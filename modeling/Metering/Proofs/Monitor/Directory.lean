import Metering.Monitor
import Metering.Proofs.Hub.Access

/-!
# Backends over time

What a backend is for good, its registry and its kind (`Site.profile?`), and what the directory does
to the backends of a site: `Site.build_inv` and `Directory.setup_inv` say what a setup can lead to,
`Site.close_alike` that a backend which is closed may have its registry cleared and nothing else.
-/

namespace Metering

namespace Site

variable {α : Type} {s s' : Site α}

/-- The registry and the kind of a backend, which never change. -/
def profile? (s : Site α) (b : BackendRef) : Option (RegistryRef × BackendKind) :=
  (s.backend? b).map fun backend => (backend.registry, backend.kind)

/-- The same backends, whatever they export, over the same hub. -/
structure Alike (s s' : Site α) : Prop where
  hub : s'.hub = s.hub
  profile? (b : BackendRef) : s'.profile? b = s.profile? b

/-- A site is like itself. -/
lemma Alike.refl (s : Site α) : s.Alike s := ⟨rfl, fun _ => rfl⟩

/-- Sites that are like the same one are alike. -/
lemma Alike.trans {s'' : Site α} (alike : s.Alike s') (alike' : s'.Alike s'') : s.Alike s'' :=
  ⟨alike'.hub.trans alike.hub, fun b => (alike'.profile? b).trans (alike.profile? b)⟩

/-- A backend may be replaced by one of its registry and kind. -/
lemma alike_setBackend {b : BackendRef} {old new : Backend} (there : s.backend? b = some old)
    (registry : new.registry = old.registry) (kind : new.kind = old.kind) :
    s.Alike (s.setBackend b new) := by
  refine ⟨rfl, fun b' => ?_⟩
  have bound : b.index < s.backends.size := (Array.getElem?_eq_some_iff.1 there).1
  rw [profile?, profile?, backend?, setBackend, Array.getElem?_setIfInBounds]
  by_cases same : b.index = b'.index
  · have there' : s.backend? b' = some old := by
      rw [backend?, ← same]
      exact there
    rw [if_pos same, if_pos bound, there', Option.map_some, Option.map_some, registry, kind]
  · rw [if_neg same]
    rfl

/-! ## Building -/

/-- A site with one more backend of some kind, over a registry of its own that lists nothing yet. -/
structure Extends (s s' : Site α) (b : BackendRef) (registry : Registry) (k : BackendKind) : Prop where
  nothing : registry.listings = []
  store : k ≠ .disabled → registry.isStore
  hub : s'.hub = (s.hub.addRegistry registry).2
  new : s.profile? b = none
  profile? (b' : BackendRef) : s'.profile? b' =
    if b' = b then some ((s.hub.addRegistry registry).1, k) else s.profile? b'

namespace Extends

variable {b b' : BackendRef} {registry : Registry} {k : BackendKind}
variable {p : RegistryRef × BackendKind}

/-- The backend that was added is none of those before. -/
lemma ne (more : s.Extends s' b registry k) (profile : s.profile? b' = some p) : b' ≠ b := by
  rintro rfl
  rw [more.new] at profile
  cases profile

/-- The backends before keep their profiles. -/
lemma keep (more : s.Extends s' b registry k) (profile : s.profile? b' = some p) :
    s'.profile? b' = some p := by
  rw [more.profile?, if_neg (more.ne profile), profile]

/-- A profile is that of the added backend or was there before. -/
lemma back (more : s.Extends s' b registry k) (profile : s'.profile? b' = some p) :
    b' = b ∧ p = ((s.hub.addRegistry registry).1, k) ∨ s.profile? b' = some p := by
  rw [more.profile?] at profile
  split at profile
  case isTrue eq => exact .inl ⟨eq, (Option.some.inj profile).symm⟩
  case isFalse => exact .inr profile

end Extends

/-- A backend that is added over the next registry of the hub. -/
lemma extends_addBackend (s : Site α) {registry : Registry} {backend : Backend}
    (own : backend.registry = (s.hub.addRegistry registry).1) (nothing : registry.listings = [])
    (store : backend.kind ≠ .disabled → registry.isStore) :
    let added := { s with hub := (s.hub.addRegistry registry).2 }.addBackend backend
    s.Extends added.2 added.1 registry backend.kind := by
  intro added
  have last (b : BackendRef) : b = added.1 ↔ b.index = s.backends.size :=
    ⟨fun eq => by rw [eq]; rfl, fun eq => by cases b; cases eq; rfl⟩
  constructor
  case nothing => exact nothing
  case store => exact store
  case hub => rfl
  case new =>
    rw [profile?, backend?, (last _).1 rfl, Array.getElem?_eq_none (Nat.le_refl _), Option.map_none]
  case profile? =>
    intro b
    simp only [last, ← own]
    simp only [added, profile?, backend?, addBackend, Array.getElem?_push]
    split <;> rfl

/-- What is built is a backend over a new registry, added behind the others. -/
lemma build_eq {around : Surroundings} {o : BackendOptions} {b : BackendRef}
    (built : s.build around o = .ok (b, s')) : ∃ registry backend,
      backend.registry = (s.hub.addRegistry registry).1 ∧ registry.listings = [] ∧
        (backend.kind ≠ .disabled → registry.isStore) ∧
          { s with hub := (s.hub.addRegistry registry).2 }.addBackend backend = (b, s') := by
  cases o with
  | prometheus o =>
    simp only [build, buildScraped] at built
    cases server : o.server.mapM (startServer around o.endpoint) with
    | error e => rw [server] at built; cases built
    | ok server? =>
      rw [server] at built
      exact ⟨.store [], _, rfl, rfl, fun _ => rfl, Except.ok.inj built⟩
  | influxDb o =>
    simp only [build, buildPushing] at built
    cases writer : Influx.Writer.ofOptions o with
    | error e => rw [writer] at built; cases built
    | ok writer =>
      rw [writer] at built
      cases executor : around.executor with
      | false => rw [executor] at built; cases built
      | true =>
        rw [executor] at built
        exact ⟨.store [], _, rfl, rfl, fun _ => rfl, Except.ok.inj built⟩
  | disabled =>
    exact ⟨.discarding, _, rfl, rfl, fun enabled => absurd rfl enabled, Except.ok.inj built⟩

/-- Building adds one backend over a new registry. -/
lemma build_inv {around : Surroundings} {o : BackendOptions} {b : BackendRef}
    (built : s.build around o = .ok (b, s')) : ∃ registry k, s.Extends s' b registry k := by
  obtain ⟨registry, backend, own, nothing, store, added⟩ := build_eq built
  have more := s.extends_addBackend own nothing store
  rw [added] at more
  exact ⟨registry, _, more⟩

/-- Building leaves the backends that are there as they are. -/
lemma backend?_build {around : Surroundings} {o : BackendOptions} {b b' : BackendRef}
    (built : s.build around o = .ok (b, s')) (there : (s.backend? b').isSome) :
    s'.backend? b' = s.backend? b' := by
  obtain ⟨registry, backend, -, -, -, added⟩ := build_eq built
  cases added
  obtain ⟨old, there⟩ := Option.isSome_iff_exists.1 there
  have bound : b'.index < s.backends.size := (Array.getElem?_eq_some_iff.1 there).1
  exact (Array.getElem?_push_lt bound).trans (Array.getElem?_eq_getElem bound).symm

/-! ## Exporting and closing -/

/-- The hub after a backend has let go of its meters, if it does so when it is closed. -/
def released (s : Site α) (b : BackendRef) : Hub α :=
  match s.backend? b with
  | some (.scraped registry _) => s.hub.clear registry
  | _ => s.hub

/-- What a closed backend lets go of is its own registry. -/
lemma released_eq (s : Site α) (b : BackendRef) :
    s.released b = s.hub ∨
      ∃ r k, s.profile? b = some (r, k) ∧ s.released b = s.hub.clear r := by
  unfold released profile?
  cases s.backend? b with
  | none => exact .inl rfl
  | some backend =>
    cases backend with
    | scraped registry server => exact .inr ⟨registry, _, rfl, rfl⟩
    | pushing => exact .inl rfl
    | disabled => exact .inl rfl

variable [Amount α]

/-- A publication leaves hub and profiles as they are. -/
lemma publish_alike (s : Site α) (b : BackendRef) (timestamp : Int) :
    s.Alike (s.publish b timestamp).2 := by
  unfold publish
  split
  case h_1 registry size looping sink there =>
    rcases Influx.publish Influx.Sink.write size (s.lines registry timestamp) (sink, s.network)
      with ⟨_, sink', network⟩
    have sent : s.Alike { s with network } := ⟨rfl, fun _ => rfl⟩
    exact sent.trans (alike_setBackend there rfl rfl)
  case h_2 => exact .refl s

/-- Ending a loop leaves hub and profiles as they are. -/
lemma endLoop_alike (s : Site α) (b : BackendRef) (timestamp : Int) :
    s.Alike (s.endLoop b timestamp) := by
  unfold endLoop
  split
  case h_1 =>
    -- after the last push the backend is looked up again
    have alike := s.publish_alike b timestamp
    cases published : s.publish b timestamp with | mk written pushed
    rw [published] at alike
    refine alike.trans ?_
    cases there : pushed.backend? b with
    | none => simpa only [there] using Alike.refl pushed
    | some backend =>
      cases backend with
      | pushing registry size _ sink =>
        have ended : pushed.Alike (pushed.setBackend b (.pushing registry size false sink)) :=
          alike_setBackend there rfl rfl
        simpa only [there] using ended
      | scraped => simpa only [there] using Alike.refl pushed
      | disabled => simpa only [there] using Alike.refl pushed
  case h_2 => exact .refl s

/-- Closing a backend may clear its registry and does nothing else to the hub. -/
lemma close_alike (s : Site α) (b : BackendRef) (timestamp : Int) :
    { s with hub := s.released b }.Alike (s.close b timestamp) := by
  unfold close released
  cases there : s.backend? b with
  | none => exact .refl s
  | some backend =>
    cases backend with
    | scraped registry server => exact alike_setBackend there rfl rfl
    | pushing => exact s.endLoop_alike b timestamp
    | disabled => exact .refl s

end Site

namespace Directory

/-- A new entry is found under its name, and the others as before. -/
lemma get?_cons (d : Directory) (name : String) (b : BackendRef) (n : String) :
    (⟨(name, b) :: d.entries⟩ : Directory).get? n = if n = name then some b else d.get? n := by
  rw [get?, List.lookup_cons]
  by_cases same : n = name
  · simp [same]
  · simp [same, beq_false_of_ne same, get?]

/-- What is found is the new entry or was found before. -/
lemma of_get?_cons {d : Directory} {name n : String} {b b' : BackendRef}
    (found : (⟨(name, b) :: d.entries⟩ : Directory).get? n = some b') :
    n = name ∧ b' = b ∨ d.get? n = some b' := by
  rw [get?_cons] at found
  split at found
  case isTrue eq => exact .inl ⟨eq, (Option.some.inj found).symm⟩
  case isFalse => exact .inr found

/-- A directory without some names. -/
lemma get?_filter (d : Directory) (gone : String → Bool) (n : String) :
    (⟨d.entries.filter fun e => !gone e.1⟩ : Directory).get? n =
      if gone n then none else d.get? n := by
  obtain ⟨entries⟩ := d
  simp only [get?]
  induction entries with
  | nil => simp
  | cons e entries ih =>
    obtain ⟨name, b⟩ := e
    rw [List.filter_cons, List.lookup_cons]
    by_cases here : n = name
    · subst here
      cases erased : gone n with
      | true => simp [ih, erased]
      | false => simp
    · have other : (n == name) = false := beq_false_of_ne here
      cases gone name with
      | true => simp [ih, other]
      | false => simp [ih, other, List.lookup_cons]

/-- Erasing a name hides that name only. -/
lemma get?_erase (d : Directory) (name n : String) :
    (d.erase name).get? n = if n = name then none else d.get? n := by
  have gone : d.erase name = ⟨d.entries.filter fun e => !decide (e.1 = name)⟩ := by
    simp only [erase, ne_eq, decide_not]
  rw [gone, get?_filter d (fun n => n = name)]
  simp only [decide_eq_true_eq]

/-- What is found after a name was erased has another name and was found before. -/
lemma of_get?_erase {d : Directory} {name n : String} {b : BackendRef}
    (found : (d.erase name).get? n = some b) : n ≠ name ∧ d.get? n = some b := by
  rw [get?_erase] at found
  split at found
  case isTrue => cases found
  case isFalse other => exact ⟨other, found⟩

variable {α : Type} {d d' : Directory} {s s' : Site α}

/-- A setup finds the backend of the name, or else it builds one. -/
lemma setup_inv {around : Surroundings} {name : String} {o : BackendOptions} {b : BackendRef}
    (ok : d.setup s around name o = .ok (b, d', s')) :
    d.get? name = some b ∧ d' = d ∧ s' = s ∨
      d.get? name = none ∧ d' = ⟨(name, b) :: d.entries⟩ ∧ s.build around o = .ok (b, s') := by
  unfold setup at ok
  cases found : d.get? name with
  | some b' =>
    rw [found] at ok
    cases ok
    exact .inl ⟨rfl, rfl, rfl⟩
  | none =>
    rw [found] at ok
    cases built : s.build around o with
    | error e => rw [built] at ok; cases ok
    | ok result =>
      rw [built] at ok
      cases ok
      exact .inr ⟨rfl, rfl, rfl⟩

end Directory

/-- A monitor sets up its backend and takes a new scope over the registry of the backend. -/
lemma Monitor.setup_inv {α : Type} {d d' : Directory} {s s' : Site α} {around : Surroundings}
    {o : Options} {m : Monitor} (ok : Monitor.setup d s around o = .ok (m, d', s')) :
    ∃ s'', d.setup s around o.registryName o.effectiveBackend = .ok (m.backend, d', s'') ∧
      m.scope = ⟨s''.hub.scopes, ((s''.backend? m.backend).map Backend.registry).getD ⟨0⟩⟩ ∧
      s' = { s'' with hub := { s''.hub with scopes := s''.hub.scopes + 1 } } := by
  unfold Monitor.setup at ok
  cases setup : d.setup s around o.registryName o.effectiveBackend with
  | error e => rw [setup] at ok; cases ok
  | ok result =>
    obtain ⟨b, d'', s''⟩ := result
    rw [setup] at ok
    cases ok
    exact ⟨s'', rfl, rfl, rfl⟩

/-- A monitor has the registry name of its options. -/
lemma Monitor.registryName_of_setup {α : Type} {d d' : Directory} {s s' : Site α}
    {around : Surroundings} {o : Options} {m : Monitor}
    (ok : Monitor.setup d s around o = .ok (m, d', s')) : m.registryName = o.registryName := by
  unfold Monitor.setup at ok
  cases setup : d.setup s around o.registryName o.effectiveBackend with
  | error e => rw [setup] at ok; cases ok
  | ok result =>
    rw [setup] at ok
    cases ok
    rfl

end Metering
