import Metering.Proofs.Hub.Access

/-!
# Sound hubs

What holds of a hub whatever the families of a collection `F` have asked of it (`Hub.Sound`). The
registries in `R` are stores that were never cleared since families keep instruments of theirs: a
family over one of them keeps the very instrument that the registry lists, or a private one because
the registry lists another kind under the identity. `Sound.get`, `Sound.change`, `Sound.clear`,
`Sound.addRegistry` and `Sound.mono` say that it stays so.
-/

namespace Metering.Hub

variable {α : Type}

/-- What a family keeps is listed under its identity, with its kind. -/
structure Shared (h : Hub α) (f : Family) (values : List String) (m : MeterRef) : Prop where
  listed : ∃ l ∈ h.listings f.scope.registry, l.id = f.id values ∧ l.meter = m
  kind : h.kind? m = some f.template.kind

/-- What a family keeps is its own, since its identity is listed with another kind. -/
structure Private (h : Hub α) (f : Family) (values : List String) (m : MeterRef) : Prop where
  other : ∃ l ∈ h.listings f.scope.registry, l.id = f.id values ∧
    ∃ k, h.kind? l.meter = some k ∧ k ≠ f.template.kind
  kind : h.kind? m = some f.template.kind
  unlisted {r l} : l ∈ h.listings r → l.meter ≠ m
  alone {p} : p ∈ h.slots → p.2 = m → p.1 = slot f values

/-- What is shared for some values is shared for all that are filed under their key. -/
lemma Shared.of_key {h : Hub α} {f : Family} {vs ws : List String} {m : MeterRef}
    (shared : h.Shared f vs m) (key : f.key vs = f.key ws) : h.Shared f ws m := by
  obtain ⟨l, listed, id, meter⟩ := shared.listed
  exact ⟨⟨l, listed, id.trans (f.id_eq_of_key key), meter⟩, shared.kind⟩

/-- Whether a meter is private depends on the key of the values only. -/
lemma Private.of_key {h : Hub α} {f : Family} {vs ws : List String} {m : MeterRef}
    (priv : h.Private f vs m) (key : f.key vs = f.key ws) : h.Private f ws m := by
  obtain ⟨l, listed, id, other⟩ := priv.other
  refine ⟨⟨l, listed, id.trans (f.id_eq_of_key key), other⟩, priv.kind, priv.unlisted, ?_⟩
  intro p mem eq
  rw [priv.alone mem eq, slot_eq_iff]
  exact ⟨rfl, rfl, key⟩

/-- The state of a hub that serves the families in `F`; the registries in `R` were never cleared. -/
structure Sound (F : Set Family) (R : Set RegistryRef) (h : Hub α) : Prop where
  /-- A registry lists an identity at most once. -/
  ids_nodup (r) : ((h.listings r).map Listing.id).Nodup
  /-- What is listed comes from a family over the registry. -/
  stem {r l} : l ∈ h.listings r → ∃ f ∈ F, f.scope.registry = r ∧ f.template.name = l.id.name ∧
    h.kind? l.meter = some f.template.kind
  /-- An instrument is listed in one place at most. -/
  listed_once {r r' l l'} : l ∈ h.listings r → l' ∈ h.listings r' → l.meter = l'.meter →
    r = r' ∧ l = l'
  /-- What is kept exists. -/
  kept_exists {p} : p ∈ h.slots → p.2.index < h.instruments.size
  /-- What a family keeps is listed in its own registry if anywhere. -/
  kept_home {f vs m r l} : f ∈ F → h.kept? f vs = some m → l ∈ h.listings r → l.meter = m →
    r = f.scope.registry
  /-- Registries that were never cleared are stores. -/
  store {r} : r ∈ R → (h.registry r).isStore
  /-- What a family over a registry that was never cleared keeps is shared or private. -/
  kept {f vs m} : f ∈ F → f.scope.registry ∈ R → h.kept? f vs = some m →
    h.Shared f vs m ∨ h.Private f vs m

namespace Sound

variable {F : Set Family} {R : Set RegistryRef} {h : Hub α}

/-- A listed meter is there. -/
lemma listed_exists (sound : h.Sound F R) {r l} (listed : l ∈ h.listings r) :
    l.meter.index < h.instruments.size := by
  obtain ⟨f, -, -, -, kind⟩ := sound.stem listed
  exact kind?_isSome_iff.1 (by rw [kind]; rfl)

/-- The next instrument is not listed yet. -/
lemma listed_ne_next (sound : h.Sound F R) {r l} (listed : l ∈ h.listings r) :
    l.meter ≠ h.next := by
  obtain ⟨f, -, -, -, kind⟩ := sound.stem listed
  exact ne_next_of_kind? kind

/-- The next instrument is not kept yet. -/
lemma kept_ne_next (sound : h.Sound F R) {p} (mem : p ∈ h.slots) : p.2 ≠ h.next := by
  intro eq
  have exists_ := sound.kept_exists mem
  rw [eq] at exists_
  exact Nat.lt_irrefl _ exists_

/-- A registry lists each identity once. -/
lemma eq_of_id (sound : h.Sound F R) {r l l'} (listed : l ∈ h.listings r)
    (listed' : l' ∈ h.listings r) (id : l.id = l'.id) : l = l' :=
  List.inj_on_of_nodup_map (sound.ids_nodup r) listed listed' id

/-- What is listed is found under its identity. -/
lemma find?_of_listed (sound : h.Sound F R) {r l} (listed : l ∈ h.listings r) :
    (h.registry r).find? l.id = some l := by
  cases found : (h.registry r).find? l.id with
  | none => exact absurd rfl (find?_none found listed)
  | some l' =>
    obtain ⟨listed', id⟩ := find?_some found
    rw [sound.eq_of_id listed' listed id]

/-- The empty hub is sound. -/
lemma empty : (Hub.empty : Hub α).Sound F ∅ where
  ids_nodup _ := List.nodup_nil
  stem listed := nomatch listed
  listed_once listed := nomatch listed
  kept_exists mem := nomatch mem
  kept_home _ kept := nomatch kept
  store mem := nomatch mem
  kept _ mem := nomatch mem

/-- More families come into play, which keep nothing yet. -/
lemma mono (sound : h.Sound F R) {G : Set Family} (sub : F ⊆ G)
    (unkept : ∀ f ∈ G, f ∉ F → ∀ vs, h.kept? f vs = none) : h.Sound G R := by
  have old {f vs m} (hf : f ∈ G) (kept : h.kept? f vs = some m) : f ∈ F := by
    by_contra new
    rw [unkept f hf new vs] at kept
    cases kept
  exact
    { ids_nodup := sound.ids_nodup
      stem := fun listed => by
        obtain ⟨f, hf, rest⟩ := sound.stem listed
        exact ⟨f, sub hf, rest⟩
      listed_once := sound.listed_once
      kept_exists := sound.kept_exists
      kept_home := fun hf kept => sound.kept_home (old hf kept) kept
      store := sound.store
      kept := fun hf live kept => sound.kept (old hf kept) live kept }

/-- A store of which no family keeps anything was never cleared. -/
lemma live (sound : h.Sound F R) {r : RegistryRef} (store : (h.registry r).isStore)
    (unkept : ∀ f ∈ F, f.scope.registry = r → ∀ vs, h.kept? f vs = none) :
    h.Sound F (insert r R) where
  ids_nodup := sound.ids_nodup
  stem := sound.stem
  listed_once := sound.listed_once
  kept_exists := sound.kept_exists
  kept_home := sound.kept_home
  store live := by
    rcases live with rfl | live
    · exact store
    · exact sound.store live
  kept {f vs m} hf live kept := by
    rcases live with eq | live
    · rw [unkept f hf eq vs] at kept
      cases kept
    · exact sound.kept hf live kept

/-- Of some registries it may be forgotten that they were never cleared. -/
lemma restrict (sound : h.Sound F R) {R' : Set RegistryRef} (sub : R' ⊆ R) : h.Sound F R' where
  ids_nodup := sound.ids_nodup
  stem := sound.stem
  listed_once := sound.listed_once
  kept_exists := sound.kept_exists
  kept_home := sound.kept_home
  store live := sound.store (sub live)
  kept hf live kept := sound.kept hf (sub live) kept

/-- A registry without meters is added. -/
lemma addRegistry (sound : h.Sound F R) {new : Registry} (empty : new.listings = []) :
    (h.addRegistry new).2.Sound F R := by
  have listings {r} : (h.addRegistry new).2.listings r = h.listings r :=
    h.listings_addRegistry new empty r
  exact
    { ids_nodup := fun r => by
        rw [listings]
        exact sound.ids_nodup r
      stem := fun listed => sound.stem (listings ▸ listed)
      listed_once := fun listed listed' => sound.listed_once (listings ▸ listed) (listings ▸ listed')
      kept_exists := sound.kept_exists
      kept_home := fun hf kept listed => sound.kept_home hf kept (listings ▸ listed)
      store := fun {r} live => by
        have store := sound.store live
        have old : r ≠ (h.addRegistry new).1 := by
          rintro rfl
          rw [registry_addRegistry_fst] at store
          cases store
        rw [registry_addRegistry, if_neg old]
        exact store
      kept := fun hf live kept => by
        rcases sound.kept hf live kept with shared | priv
        · refine .inl ⟨?_, shared.kind⟩
          rw [listings]
          exact shared.listed
        · refine .inr ⟨?_, priv.kind, fun listed => priv.unlisted (listings ▸ listed), priv.alone⟩
          rw [listings]
          exact priv.other }

/-- Scopes do not matter as long as nobody asks. -/
lemma scopes (sound : h.Sound F R) (n : Nat) : { h with scopes := n }.Sound F R where
  ids_nodup := sound.ids_nodup
  stem := sound.stem
  listed_once := sound.listed_once
  kept_exists := sound.kept_exists
  kept_home := sound.kept_home
  store := sound.store
  kept hf live kept := by
    rcases sound.kept hf live kept with shared | priv
    · exact .inl ⟨shared.listed, shared.kind⟩
    · exact .inr ⟨priv.other, priv.kind, priv.unlisted, priv.alone⟩

/-- A registry is cleared. Its families do not ask again for what they keep. -/
lemma clear (sound : h.Sound F R) (r : RegistryRef) : (h.clear r).Sound F (R \ {r}) := by
  have old {s l} (listed : l ∈ (h.clear r).listings s) : l ∈ h.listings s := by
    rw [listings_clear] at listed
    split at listed
    · cases listed
    · exact listed
  have same {s} (other : s ∉ ({r} : Set RegistryRef)) : (h.clear r).listings s = h.listings s := by
    have ne : s ≠ r := other
    rw [listings_clear, if_neg ne]
  exact
    { ids_nodup := fun s => by
        rw [listings_clear]
        split
        · exact List.nodup_nil
        · exact sound.ids_nodup s
      stem := fun listed => sound.stem (old listed)
      listed_once := fun listed listed' => sound.listed_once (old listed) (old listed')
      kept_exists := sound.kept_exists
      kept_home := fun hf kept listed => sound.kept_home hf kept (old listed)
      store := fun {s} live => by
        have ne : s ≠ r := live.2
        unfold Hub.clear
        rw [registry_modify h r s Registry.clear rfl, if_neg ne]
        exact sound.store live.1
      -- only registries other than the cleared one are still promised to show what is kept
      kept := fun hf live kept => by
        rcases sound.kept hf live.1 kept with shared | priv
        · refine .inl ⟨?_, shared.kind⟩
          rw [same live.2]
          exact shared.listed
        · refine .inr ⟨?_, priv.kind, fun listed => priv.unlisted (old listed), priv.alone⟩
          rw [same live.2]
          exact priv.other }

/-! ## What an access leaves behind -/

/-- A family comes to keep an instrument that is not the private one of another. -/
lemma keep (sound : h.Sound F R) (apart : Family.Apart F) {f : Family} (hf : f ∈ F)
    {vs : List String} {m : MeterRef} (exists_ : m.index < h.instruments.size)
    (home : ∀ {r l}, l ∈ h.listings r → l.meter = m → r = f.scope.registry)
    (status : f.scope.registry ∈ R →
      (h.keep f vs m).Shared f vs m ∨ (h.keep f vs m).Private f vs m)
    (free : ∀ {g ws n}, (slot g ws, n) ∈ h.slots → h.Private g ws n → n ≠ m) :
    (h.keep f vs m).Sound F R where
  ids_nodup := sound.ids_nodup
  stem := sound.stem
  listed_once := sound.listed_once
  kept_exists mem := by
    rcases List.mem_cons.1 mem with rfl | mem
    · exact exists_
    · exact sound.kept_exists mem
  kept_home {g ws n r l} hg kept listed eq := by
    rw [kept?_keep] at kept
    split at kept
    case isTrue same =>
      obtain ⟨rfl, -⟩ := (slot_eq_iff_of_apart apart hg hf).1 same
      cases kept
      exact home listed eq
    case isFalse => exact sound.kept_home hg kept listed eq
  store := sound.store
  kept {g ws n} hg live kept := by
    rw [kept?_keep] at kept
    split at kept
    case isTrue same =>
      -- the slot tells the family, the values only up to the key
      obtain ⟨rfl, key⟩ := (slot_eq_iff_of_apart apart hg hf).1 same
      cases kept
      exact (status live).imp (·.of_key key.symm) (·.of_key key.symm)
    case isFalse =>
      rcases sound.kept hg live kept with shared | priv
      · exact .inl ⟨shared.listed, shared.kind⟩
      · refine .inr ⟨priv.other, priv.kind, priv.unlisted, ?_⟩
        intro p mem eq
        rcases List.mem_cons.1 mem with rfl | mem
        · exact absurd eq.symm (free (mem_slots_of_kept? kept) priv)
        · exact priv.alone mem eq

/-- A new instrument changes nothing of what is listed and kept. -/
lemma push (sound : h.Sound F R) (i : Instrument α) : (h.push i).Sound F R := by
  have kind? {m k} (kind : h.kind? m = some k) : (h.push i).kind? m = some k := by
    rw [kind?_push, if_neg (ne_next_of_kind? kind), kind]
  exact
    { ids_nodup := sound.ids_nodup
      stem := fun listed => by
        obtain ⟨f, hf, registry, name, kind⟩ := sound.stem listed
        exact ⟨f, hf, registry, name, kind? kind⟩
      listed_once := sound.listed_once
      kept_exists := fun mem => by
        have exists_ := sound.kept_exists mem
        simp only [Hub.push, Array.size_push]
        omega
      kept_home := sound.kept_home
      store := sound.store
      kept := fun hf live kept => by
        rcases sound.kept hf live kept with shared | priv
        · exact .inl ⟨shared.listed, kind? shared.kind⟩
        · obtain ⟨l, listed, id, k, kind, ne⟩ := priv.other
          exact .inr ⟨⟨l, listed, id, k, kind? kind, ne⟩, kind? priv.kind, priv.unlisted,
            priv.alone⟩ }

/-- An instrument that nobody knows comes to be listed under an identity that is not listed yet. -/
lemma enlist (sound : h.Sound F R) {f : Family} (hf : f ∈ F) {l : Listing}
    (name : f.template.name = l.id.name) (kind : h.kind? l.meter = some f.template.kind)
    (missing : ∀ {l'}, l' ∈ h.listings f.scope.registry → l'.id ≠ l.id)
    (unlisted : ∀ {r l'}, l' ∈ h.listings r → l'.meter ≠ l.meter)
    (unkept : ∀ {p}, p ∈ h.slots → p.2 ≠ l.meter) :
    (h.enlist f.scope.registry l).Sound F R := by
  -- listings before and after differ in the new one only
  have mem {r l'} : l' ∈ (h.enlist f.scope.registry l).listings r →
      l' ∈ h.listings r ∨ r = f.scope.registry ∧ l' = l := by
    rw [listings_enlist]
    split
    case isTrue both => simp [both.1]
    case isFalse => exact .inl
  have grow {r l'} (listed : l' ∈ h.listings r) :
      l' ∈ (h.enlist f.scope.registry l).listings r := by
    rw [listings_enlist]
    split
    case isTrue => exact List.mem_append_left _ listed
    case isFalse => exact listed
  exact
    { ids_nodup := fun r => by
        rw [listings_enlist]
        split
        case isTrue both =>
          obtain ⟨rfl, -⟩ := both
          rw [List.map_append, List.nodup_append]
          refine ⟨sound.ids_nodup _, List.nodup_singleton _, ?_⟩
          rintro id listed id' last rfl
          obtain ⟨l', listed', rfl⟩ := List.mem_map.1 listed
          exact missing listed' (by simpa using last)
        case isFalse => exact sound.ids_nodup r
      stem := fun listed => by
        rcases mem listed with old | ⟨rfl, rfl⟩
        · exact sound.stem old
        · exact ⟨f, hf, rfl, name, kind⟩
      listed_once := fun {r r' l₁ l₂} listed listed' eq => by
        rcases mem listed with old | ⟨rfl, rfl⟩
        · rcases mem listed' with old' | ⟨rfl, rfl⟩
          · exact sound.listed_once old old' eq
          · exact absurd eq (unlisted old)
        · rcases mem listed' with old' | ⟨rfl, rfl⟩
          · exact absurd eq.symm (unlisted old')
          · exact ⟨rfl, rfl⟩
      kept_exists := sound.kept_exists
      kept_home := fun hg kept listed eq => by
        rcases mem listed with old | ⟨rfl, rfl⟩
        · exact sound.kept_home hg kept old eq
        · exact absurd eq.symm (unkept (mem_slots_of_kept? kept))
      store := fun live => by
        rw [registry_enlist]
        split
        · rw [Registry.isStore_list]
          exact sound.store live
        · exact sound.store live
      kept := fun hg live kept => by
        rcases sound.kept hg live kept with shared | priv
        · obtain ⟨l', listed, rest⟩ := shared.listed
          exact .inl ⟨⟨l', grow listed, rest⟩, shared.kind⟩
        · obtain ⟨l', listed, rest⟩ := priv.other
          refine .inr ⟨⟨l', grow listed, rest⟩, priv.kind, ?_, priv.alone⟩
          intro r l'' listed eq
          rcases mem listed with old | ⟨rfl, rfl⟩
          · exact priv.unlisted old eq
          · exact unkept (mem_slots_of_kept? kept) eq.symm }

/-! ## Steps of the hub -/

variable [Amount α]

/-- However a family comes by an instrument, the hub stays sound. -/
theorem got (sound : h.Sound F R) (apart : Family.Apart F) {f : Family} (hf : f ∈ F)
    {vs : List String} {m : MeterRef} {h' : Hub α} (got : h.Got f vs m h') : h'.Sound F R := by
  have pushed := sound.push (.fresh f.template.kind)
  have fresh : (h.push (.fresh f.template.kind)).kind? h.next = some f.template.kind := by
    rw [kind?_push, if_pos rfl, Instrument.kind_fresh]
  cases got with
  | kept => exact sound
  | @shared l _ found kind =>
    -- what is listed is private to nobody, so that one more family may keep it
    obtain ⟨listed, id⟩ := find?_some found
    obtain ⟨g, -, -, -, kind'⟩ := sound.stem listed
    rw [kind', Option.getD_some] at kind
    rw [kind] at kind'
    refine sound.keep apart hf (sound.listed_exists listed) ?_ ?_ ?_
    · exact fun listed' eq => (sound.listed_once listed' listed eq).1
    · exact fun _ => .inl ⟨⟨l, listed, id, rfl⟩, kind'⟩
    · exact fun _ priv eq => priv.unlisted listed eq.symm
  | @clash l _ found kind =>
    -- the new instrument is in no slot and in no listing yet, so that it becomes private
    obtain ⟨listed, id⟩ := find?_some found
    obtain ⟨g, -, -, -, kind'⟩ := sound.stem listed
    rw [kind', Option.getD_some] at kind
    have kind'' : (h.push (.fresh f.template.kind)).kind? l.meter = some g.template.kind := by
      rw [kind?_push, if_neg (ne_next_of_kind? kind'), kind']
    refine pushed.keep apart hf (kind?_isSome_iff.1 (by rw [fresh]; rfl)) ?_ ?_ ?_
    · exact fun listed' eq => absurd eq (sound.listed_ne_next listed')
    · refine fun _ => .inr ⟨⟨l, listed, id, _, kind'', kind⟩, fresh, sound.listed_ne_next, ?_⟩
      intro p mem eq
      rcases List.mem_cons.1 mem with rfl | mem
      · rfl
      · exact absurd eq (sound.kept_ne_next mem)
    · exact fun mem _ => sound.kept_ne_next mem
  | new _ missing =>
    let l : Listing := ⟨f.id vs, f.template.description, h.next⟩
    have listed : ((h.push (.fresh f.template.kind)).enlist f.scope.registry l).Sound F R :=
      pushed.enlist hf rfl fresh (fun listed => find?_none missing listed)
        sound.listed_ne_next sound.kept_ne_next
    refine listed.keep apart hf (kind?_isSome_iff.1 (by rw [kind?_enlist, fresh]; rfl)) ?_ ?_ ?_
    · intro r l' mem eq
      rw [listings_enlist] at mem
      split at mem
      case isTrue both => exact both.1
      case isFalse => exact absurd eq (sound.listed_ne_next mem)
    · refine fun live => .inl ⟨⟨l, ?_, rfl, rfl⟩, fresh⟩
      rw [listings_keep, listings_enlist, if_pos ⟨rfl, pushed.store live⟩]
      exact List.mem_append_right _ (List.mem_singleton_self l)
    · exact fun mem _ => sound.kept_ne_next mem

/-- A hub stays sound when a family gets a meter. -/
lemma get (sound : h.Sound F R) (apart : Family.Apart F) {f : Family} (hf : f ∈ F)
    (vs : List String) : (h.get f vs).2.Sound F R :=
  sound.got apart hf (h.got_get f vs)

/-- A hub stays sound under a change. -/
lemma change (sound : h.Sound F R) (m : MeterRef) (c : Change α) : (h.change m c).Sound F R where
  ids_nodup := sound.ids_nodup
  stem {r l} listed := by
    rw [kind?_change]
    exact sound.stem listed
  listed_once := sound.listed_once
  kept_exists mem := by
    rw [instruments_size_change]
    exact sound.kept_exists mem
  kept_home := sound.kept_home
  store := sound.store
  kept hf live kept := by
    rcases sound.kept hf live kept with shared | priv
    · refine .inl ⟨shared.listed, ?_⟩
      rw [kind?_change]
      exact shared.kind
    · refine .inr ⟨?_, ?_, priv.unlisted, priv.alone⟩
      · simp only [kind?_change]
        exact priv.other
      · rw [kind?_change]
        exact priv.kind

/-- A hub stays sound under a touch. -/
lemma touch (sound : h.Sound F R) (apart : Family.Apart F) {t : Touch α} (ht : t.family ∈ F) :
    (h.touch t).Sound F R :=
  (sound.get apart ht t.values).change _ t.change

/-- A hub stays sound under touches. -/
theorem perform (sound : h.Sound F R) (apart : Family.Apart F) {ts : List (Touch α)}
    (hts : ∀ t ∈ ts, t.family ∈ F) : (h.perform ts).Sound F R := by
  induction ts generalizing h with
  | nil => exact sound
  | cons t ts ih =>
    exact ih (sound.touch apart (hts t (List.mem_cons_self ..)))
      fun t' mem => hts t' (List.mem_cons_of_mem t mem)

end Sound

/-- The hub with one empty store is sound. -/
lemma sound_ofStore {F : Set Family} : (ofStore : Hub α).Sound F {store} := by
  have sound : (ofStore : Hub α).Sound F ∅ := Sound.empty.addRegistry rfl
  have live := sound.live (r := store) rfl fun _ _ _ _ => rfl
  rwa [insert_empty_eq] at live

end Metering.Hub
