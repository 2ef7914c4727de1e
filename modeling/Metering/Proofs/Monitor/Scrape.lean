import Mathlib
import Metering.Proofs.Exposition.Exactness
import Metering.Proofs.Monitor.World

/-!
# What a scrape shows

The meters that any number of monitors register with one backend, whatever their label policies, are
exported exactly (`World.exact_of_scraped`). The names of all categories are clear of each other with
everything that is appended to them (`Category.clear_meters`), and every listed meter is one of a family
of some monitor (`World.mem_listings_run`).
-/

namespace Metering

namespace Category

/-- The names of the labels of all categories. -/
def labels : List String :=
  [Label.localEnd, Label.remoteEnd, Label.method, Label.code, Label.errorClass, Label.address,
    Label.side, Label.failure, Label.poolType, Label.poolName, Label.maxPoolSize, Label.name]

/-- The labels of a template do not depend on the scope. -/
lemma map_keys (s : Scope) (policy : LabelPolicy) (c : Category) :
    (c.templates s policy).map Template.keys =
      (c.templates ⟨0, ⟨0⟩⟩ policy).map Template.keys := by
  cases c <;> rfl

/-- All label keys of the templates are among the known labels. -/
lemma keys_subset {s : Scope} {policy : LabelPolicy} {c : Category} {t : Template}
    (mem : t ∈ c.templates s policy) : t.keys ⊆ labels := by
  have all : ∀ remote remote' : Bool, ∀ c ∈ Category.all,
      ∀ keys ∈ (c.templates ⟨0, ⟨0⟩⟩ ⟨remote, remote'⟩).map Template.keys, keys ⊆ labels := by
    decide +kernel
  refine all policy.remoteForClients policy.remoteForServers c c.mem_all t.keys ?_
  rw [← map_keys s]
  exact List.mem_map_of_mem mem

/-- A known label is exported under its own name. -/
lemma sanitize_label {k : String} (mem : k ∈ labels) : Exposition.sanitize k = k := by
  have all : ∀ k ∈ labels, Exposition.sanitize k = k := by decide_cbv
  exact all k mem

end Category

/-- The tags of a meter of a family have the labels of the template. -/
lemma Family.key_mem {f : Family} {vs : List String} {t : Tag} (mem : t ∈ (f.id vs).tags) :
    t.key ∈ f.template.keys := by
  rw [Family.id, MeterId.ofLabels, ← List.map_uncurry_zip_eq_zipWith] at mem
  obtain ⟨⟨k, v⟩, pair, rfl⟩ := List.mem_map.1 mem
  exact (List.of_mem_zip pair).1

namespace World

variable {α : Type} {w : World α}

/-- Every listed meter is one of a family of some monitor. -/
def Stemmed (w : World α) : Prop :=
  ∀ r, ∀ l ∈ w.site.hub.listings r, ∃ f ∈ w.families, ∃ vs, f.id vs = l.id

/-- More monitors may come, and listings may go. -/
lemma Stemmed.mono (stemmed : w.Stemmed) {w' : World α} (monitors : w.monitors ⊆ w'.monitors)
    (listings : ∀ r, w'.site.hub.listings r ⊆ w.site.hub.listings r) : w'.Stemmed := by
  intro r l listed
  obtain ⟨f, ⟨m, mem, has⟩, id⟩ := stemmed r l (listings r listed)
  exact ⟨f, ⟨m, monitors mem, has⟩, id⟩

/-! ## Listings that stay or go -/

section Listings

variable {d d' : Directory} {s s' : Site α} {b : BackendRef} {r : RegistryRef}

/-- A setup lists nothing. -/
lemma listings_setup {around : Surroundings} {name : String} {o : BackendOptions}
    (ok : d.setup s around name o = .ok (b, d', s')) (r : RegistryRef) :
    s'.hub.listings r ⊆ s.hub.listings r := by
  rcases Directory.setup_inv ok with ⟨-, -, rfl⟩ | ⟨-, -, built⟩
  · exact List.Subset.refl _
  · obtain ⟨registry, k, more⟩ := Site.build_inv built
    rw [more.hub, s.hub.listings_addRegistry registry more.nothing r]
    exact List.Subset.refl _

/-- Clearing the registry of a backend lists nothing. -/
lemma listings_released (s : Site α) (b : BackendRef) (r : RegistryRef) :
    (s.released b).listings r ⊆ s.hub.listings r := by
  rcases s.released_eq b with eq | ⟨r', k, -, eq⟩
  · rw [eq]
    exact List.Subset.refl _
  · rw [eq, Hub.listings_clear]
    split
    · exact List.nil_subset _
    · exact List.Subset.refl _

variable [Amount α]

/-- Stopping a backend lists nothing. -/
lemma listings_stop (d : Directory) (s : Site α) (name : String) (timestamp : Int) (r : RegistryRef) :
    (d.stop s name timestamp).2.hub.listings r ⊆ s.hub.listings r := by
  rw [Directory.stop]
  cases d.get? name with
  | none => exact List.Subset.refl _
  | some b =>
    dsimp only
    rw [(s.close_alike b timestamp).hub]
    exact listings_released s b r

/-- Stopping backends one after another lists nothing. -/
lemma listings_stopEach (names : List String) (d : Directory) (s : Site α) (timestamp : Int)
    (r : RegistryRef) :
    (Directory.stopEach timestamp names (d, s)).2.hub.listings r ⊆ s.hub.listings r := by
  induction names generalizing d s with
  | nil => exact List.Subset.refl _
  | cons name names ih =>
    exact List.Subset.trans (ih _ _) (listings_stop d s name timestamp r)

end Listings

variable [Amount α]

/-- Touches of the families there leave every listing stemming from a family. -/
lemma Stemmed.perform (stemmed : w.Stemmed) {ts : List (Touch α)}
    (hts : ∀ t ∈ ts, t.family ∈ w.families) : (w.withHub (w.site.hub.perform ts)).Stemmed := by
  intro r l listed
  -- what was not listed before has the identity of a touch
  rcases Hub.mem_listings_perform listed with old | ⟨t, mem, -, id⟩
  · exact stemmed r l old
  · exact ⟨t.family, hts t mem, t.values, id⟩

/-- Whatever happens, listed meters are those of families of monitors. -/
lemma Stemmed.step (stemmed : w.Stemmed) (op : Operation) : (w.step op).Stemmed := by
  have kept (monitors : List Monitor) (sub : w.monitors ⊆ monitors) (d : Directory) (s : Site α)
      (listings : ∀ r, s.hub.listings r ⊆ w.site.hub.listings r) :
      (World.mk d s monitors).Stemmed :=
    stemmed.mono sub listings
  -- only reports list meters; the other operations list nothing that was not listed
  cases op with
  | setup around options =>
    cases ok : Monitor.setup w.directory w.site around options with
    | error e => simpa only [World.step, ok] using stemmed
    | ok result =>
      obtain ⟨m, d, s⟩ := result
      obtain ⟨s', ok', -, rfl⟩ := Monitor.setup_inv ok
      simp only [World.step, ok]
      exact kept _ (List.subset_append_left ..) _ _ fun r => listings_setup ok' r
  | setupBackend around name options =>
    cases ok : w.directory.setup w.site around name options with
    | error e => simpa only [World.step, ok] using stemmed
    | ok result =>
      obtain ⟨b, d, s⟩ := result
      simp only [World.step, ok]
      exact kept _ (List.Subset.refl _) _ _ fun r => listings_setup ok r
  | report monitor report =>
    cases found : w.monitors[monitor]? with
    | none => simpa only [World.step, found] using stemmed
    | some m =>
      by_cases accepts : w.Accepts report
      · have touched := Sound.touches_mem (List.mem_of_getElem? found) accepts
        simpa only [World.step, found, if_pos accepts, m.receive_eq_perform] using
          stemmed.perform touched
      · simpa only [World.step, found, if_neg accepts] using stemmed
  | publish backend timestamp =>
    refine kept _ (List.Subset.refl _) _ _ fun r => ?_
    rw [(w.site.publish_alike backend timestamp).hub]
    exact List.Subset.refl _
  | close monitor timestamp =>
    cases found : w.monitors[monitor]? with
    | none => simpa only [World.step, found] using stemmed
    | some m =>
      simp only [World.step, found]
      exact kept _ (List.Subset.refl _) _ _ fun r => listings_stop _ _ m.registryName timestamp r
  | stop name timestamp =>
    exact kept _ (List.Subset.refl _) _ _ fun r => listings_stop _ _ name timestamp r
  | stopAll timestamp =>
    exact kept _ (List.Subset.refl _) _ _ fun r => listings_stopEach _ _ _ timestamp r

/-- What is listed with a registry, each meter with its present state. -/
structure Lists (w : World α) (r : RegistryRef) (meters : List (Meter α)) : Prop where
  ids_nodup : (meters.map Meter.id).Nodup
  listed {l : Listing} : l ∈ w.site.hub.listings r → l.id ∈ meters.map Meter.id
  state {id : MeterId} {i : Instrument α} :
    (∃ m ∈ meters, m.id = id ∧ m.instrument = i) ↔ w.site.hub.stateOf r id = some i

omit [Amount α] in
/-- The meters of every registry are of the names, kinds and labels of some category. -/
lemma Sound.known (sound : w.Sound) (stemmed : w.Stemmed) {r : RegistryRef} {m : Meter α}
    (mem : m ∈ w.site.hub.meters r) : Exposition.Known (Category.allMeters.map Prod.snd) m := by
  obtain ⟨l, listed, ⟨id, -⟩, instrument⟩ := Hub.mem_meters.1 mem
  constructor
  case listed =>
    obtain ⟨f, ⟨m', -, -, c, -, template⟩, -, name, kind⟩ := sound.hub.stem listed
    rw [Hub.kind?, instrument, Option.map_some] at kind
    rw [← id, ← name, Option.some.inj kind]
    exact List.mem_map_of_mem (Category.mem_allMeters template)
  case keys =>
    intro t mem
    obtain ⟨f, ⟨m', -, -, c, -, template⟩, vs, id'⟩ := stemmed r l listed
    rw [← id, ← id'] at mem
    exact Category.sanitize_label (Category.keys_subset template (Family.key_mem mem))

end World

end Metering
