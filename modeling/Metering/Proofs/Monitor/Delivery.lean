import Metering.Proofs.Hub.Reading
import Metering.Proofs.Monitor.World

/-!
# Delivery

What a monitor measures arrives where its backend reads it (`World.Delivers`): as long as the
directory has the backend of a monitor under the monitor's name, `World.delivers_of_entry` says that
whatever else has happened its families keep the very instruments that the backend lists, and that
each report adds to these what it touches.
-/

namespace Metering

/-- Whether a report hands back a timing of the monitor's own, if it hands back one. -/
def Monitor.Owns (m : Monitor) (report : Report) : Prop :=
  ∀ x ∈ report.sample?, m.Has x.family

namespace World

variable {α : Type} {w : World α} {m : Monitor}

/-- A listed meter is of a category that some monitor over the registry measures. -/
lemma Sound.exists_enabled (sound : w.Sound) {b : BackendRef} {r : RegistryRef} {k : BackendKind}
    (profile : w.site.profile? b = some (r, k)) {l : Listing}
    (listed : l ∈ w.site.hub.listings r) {c : Category} (name : l.id.name ∈ c.meters.map Prod.fst) :
    ∃ m ∈ w.monitors, m.backend = b ∧ m.isEnabled c := by
  obtain ⟨f, ⟨m, mem, scope, c', enabled, template⟩, rfl, eq, -⟩ := sound.hub.stem listed
  obtain ⟨k', profile'⟩ := sound.backed mem
  rw [← scope] at profile'
  refine ⟨m, mem, sound.registry_inj profile' profile, ?_⟩
  have names : c.meters.map Prod.fst = (c.templates m.scope m.labels).map Template.name := by
    rw [← c.map_templates m.scope m.labels, List.map_map]
    rfl
  rw [names] at name
  obtain ⟨t, template', eq'⟩ := List.mem_map.1 name
  obtain ⟨rfl, -⟩ := Category.eq_of_name template template' (eq.trans eq'.symm)
  exact (List.mem_filter.1 enabled).2

variable [Amount α]

/-- A monitor and its backend agree on all meters, and nobody else is concerned. -/
structure Delivers (w : World α) (m : Monitor) (backend : Backend) : Prop where
  /-- What a family keeps is what the backend lists under the identity. -/
  kept {f vs n} : backend.kind ≠ .disabled → m.Has f → w.site.hub.kept? f vs = some n →
    ∃ l, (w.site.hub.registry backend.registry).find? (f.id vs) = some l ∧ l.meter = n
  /-- No identity of a family is listed with another kind. -/
  registers {f} (vs e) : m.Has f → w.site.hub.register backend.registry (f.id vs)
    f.template.description (.fresh f.template.kind) ≠ .error e
  /-- What a report adds up arrives at the backend, each amount at the meter of its identity. -/
  arrives {report} (id) : backend.kind ≠ .disabled → m.Owns report →
    (m.receive w.site.hub report).stateOf backend.registry id =
      ((m.touches w.site.hub report).filter fun t => id = t.id).foldl Touch.after
        (w.site.hub.stateOf backend.registry id)
  /-- What a report changes is listed by the backend. -/
  changed {report n} : backend.kind ≠ .disabled → m.Owns report →
    (m.receive w.site.hub report).instrument? n ≠ w.site.hub.instrument? n →
    ∃ l ∈ (m.receive w.site.hub report).listings backend.registry, l.meter = n
  /-- A report changes nothing that another backend lists. -/
  others {report b other} : m.Owns report → b ≠ m.backend → w.site.backend? b = some other →
    (m.receive w.site.hub report).meters other.registry = w.site.hub.meters other.registry
  /-- A category that is switched off for all monitors of the backend is not listed. -/
  unlisted {c l} : (∀ m' ∈ w.monitors, m'.backend = m.backend → m'.isEnabled c = false) →
    l ∈ w.site.hub.listings backend.registry → l.id.name ∉ c.meters.map Prod.fst

namespace Sound

/-- What a report of a monitor touches is over its registry if it ends no timing of another. -/
lemma own_touches (mem : m ∈ w.monitors) {report : Report} (own : m.Owns report) :
    ∀ t ∈ m.touches w.site.hub report,
      t.family ∈ w.families ∧ t.registry = m.scope.registry := by
  intro t touched
  have has : m.Has t.family := by
    rcases m.touches_belong w.site.hub report t touched with has | ⟨x, ends, eq⟩
    · exact has
    · rw [eq]
      exact own x ends
  exact ⟨⟨m, mem, has⟩, congrArg Scope.registry has.1⟩

/-- In a sound world the backends of the directory are delivered to. -/
lemma delivers (sound : w.Sound) (mem : m ∈ w.monitors)
    (entry : w.directory.get? m.registryName = some m.backend) :
    ∃ backend, w.site.backend? m.backend = some backend ∧ w.Delivers m backend := by
  obtain ⟨k, profile⟩ := sound.backed mem
  obtain ⟨backend, there, eq⟩ := Option.map_eq_some_iff.1 profile
  obtain ⟨registry, rfl⟩ := Prod.mk.inj eq
  have concordant := families_concordant w
  have live (enabled : backend.kind ≠ .disabled) : m.scope.registry ∈ w.live :=
    ⟨m.registryName, m.backend, backend.kind, entry, profile, enabled⟩
  have family {f} (has : m.Has f) : f ∈ w.families ∧ f.scope.registry = m.scope.registry :=
    ⟨⟨m, mem, has⟩, congrArg Scope.registry has.1⟩
  refine ⟨backend, there, ?_⟩
  constructor
  -- the registry is live, so that what a family keeps is shared and listed
  case kept =>
    intro f vs n enabled has kept
    obtain ⟨hf, home⟩ := family has
    obtain ⟨l, listed, id, meter⟩ :=
      (sound.hub.shared_of_kept concordant hf (home ▸ live enabled) kept).listed
    rw [home, ← registry] at listed
    refine ⟨l, ?_, meter⟩
    rw [← id]
    exact sound.hub.find?_of_listed listed
  case registers =>
    intro f vs e has failed
    obtain ⟨hf, home⟩ := family has
    obtain ⟨l, found, clash⟩ := (Hub.register_isError_iff ..).1 ⟨e, failed⟩
    obtain ⟨listed, id⟩ := Hub.find?_some found
    rw [registry, ← home] at listed
    have kind := sound.hub.kind_of_listed concordant hf listed (by rw [id]; rfl)
    rw [kind, Option.getD_some, Instrument.kind_fresh] at clash
    exact clash rfl
  case arrives =>
    intro report id enabled own
    have touched := own_touches mem own
    have state := sound.hub.stateOf_perform sound.families_apart concordant
      (fun t mem' => ⟨(touched t mem').1, (touched t mem').2 ▸ live enabled⟩) m.scope.registry id
    rw [m.receive_eq_perform, registry, state]
    congr 1
    refine List.filter_congr fun t mem' => ?_
    rw [(touched t mem').2]
    simp
  case changed =>
    intro report n enabled own ne
    rw [m.receive_eq_perform] at ne ⊢
    rw [registry]
    exact sound.hub.listed_of_perform sound.families_apart concordant (live enabled)
      (own_touches mem own) ne
  -- two backends have no registry in common
  case others =>
    intro report b other own ne there'
    rw [m.receive_eq_perform]
    refine sound.hub.meters_perform_other sound.families_apart (own_touches mem own)
      fun same => ne ?_
    have profile' : w.site.profile? b = some (m.scope.registry, other.kind) := by
      rw [Site.profile?, there', Option.map_some, same]
    exact sound.registry_inj profile' profile
  case unlisted =>
    intro c l off listed name
    rw [registry] at listed
    obtain ⟨m', mem', same, enabled⟩ := sound.exists_enabled profile listed name
    rw [off m' mem' same] at enabled
    cases enabled

end Sound

/-- Whatever happens, in any order: as long as the directory has the backend of a monitor under the
monitor's name, every family of the monitor keeps the very instruments that the backend lists. -/
theorem delivers_of_entry (ops : List Operation)
    (mem : m ∈ (run ops : World α).monitors)
    (entry : (run ops : World α).directory.get? m.registryName = some m.backend) :
    ∃ backend, (run ops : World α).site.backend? m.backend = some backend ∧
      (run ops : World α).Delivers m backend :=
  (sound_run ops).delivers mem entry

/-- The first monitor is closed, two others share the backend that is set up next, and each of the
three sees one instance deployed: the backend lists what the two have counted together. -/
theorem delivers_of_two_monitors :
    let around : Surroundings := .alone true [] 0
    let options : Options := { enabled := true, backend := .prometheus {} }
    let deployed : Report := .deployments (.deployed "app")
    let ops : List Operation :=
      [.setup around options, .report 0 deployed, .close 0 0, .setup around options,
        .setup around (options.disable .eventBus), .report 0 deployed, .report 1 deployed,
        .report 2 deployed]
    let w : World ℚ := run ops
    let m : Monitor := ⟨"default", ⟨1⟩, ⟨2, ⟨1⟩⟩, {}, CategorySet.empty.insert .eventBus⟩
    (m ∈ w.monitors ∧ w.directory.get? m.registryName = some m.backend) ∧
      (∃ backend, w.site.backend? m.backend = some backend ∧ w.Delivers m backend) ∧
      (w.site.hub.stateOf ⟨1⟩ (Family.id ⟨m.scope, Deployments.instances⟩ ["app"])).map
        Instrument.level = some 2 ∧
      w.site.hub.listings ⟨0⟩ = [] := by
  intro around options deployed ops w m
  have mem : m ∈ w.monitors := by decide +kernel
  have entry : w.directory.get? m.registryName = some m.backend := by decide +kernel
  exact ⟨⟨mem, entry⟩, delivers_of_entry ops mem entry, by decide +kernel, by decide +kernel⟩

end World

end Metering
