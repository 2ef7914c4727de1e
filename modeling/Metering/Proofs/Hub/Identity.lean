import Metering.Proofs.Hub.Sound

/-!
# Identity of instruments

Which requests for instruments come by the same one. Within a family it is the key that decides;
across families of one registry it is kind and identity, as long as the registry lists the identity
with that kind (`Hub.Sound.kept_eq_iff`). A registry lists what was asked for first under each
identity, and nothing that is asked for later takes its place (`instruments_of_lookups`).
-/

namespace Metering

/-- A family is asked for its instrument for some values. -/
structure Lookup where
  family : Family
  values : List String
  deriving DecidableEq

/-- The identity that is looked up. -/
def Lookup.id (q : Lookup) : MeterId := q.family.id q.values

/-- The kind that is looked up. -/
def Lookup.kind (q : Lookup) : Kind := q.family.template.kind

namespace Hub

variable {α : Type} {h : Hub α} {F : Set Family} {R : Set RegistryRef}

/-- The kind of the meter that a registry lists under an identity. -/
def listedKind? (h : Hub α) (r : RegistryRef) (id : MeterId) : Option Kind :=
  ((h.registry r).find? id).bind fun l => h.kind? l.meter

/-- Under the identity of what a family keeps something is listed. -/
lemma Sound.listed_of_kept (sound : h.Sound F R) {f : Family} (hf : f ∈ F)
    (live : f.scope.registry ∈ R) {vs : List String} {m : MeterRef} (kept : h.kept? f vs = some m) :
    ∃ l ∈ h.listings f.scope.registry, l.id = f.id vs := by
  rcases sound.kept hf live kept with shared | priv
  · obtain ⟨l, listed, id, -⟩ := shared.listed
    exact ⟨l, listed, id⟩
  · obtain ⟨l, listed, id, -⟩ := priv.other
    exact ⟨l, listed, id⟩

/-- A meter that is shared is listed with the kind of the family. -/
lemma Sound.listedKind?_of_shared (sound : h.Sound F R) {f : Family} {vs : List String}
    {m : MeterRef} (shared : h.Shared f vs m) :
    h.listedKind? f.scope.registry (f.id vs) = some f.template.kind := by
  obtain ⟨l, listed, id, rfl⟩ := shared.listed
  rw [listedKind?, ← id, sound.find?_of_listed listed]
  exact shared.kind

/-- A meter is private where another kind is listed. -/
lemma Sound.listedKind?_of_private (sound : h.Sound F R) {f : Family} {vs : List String}
    {m : MeterRef} (priv : h.Private f vs m) :
    h.listedKind? f.scope.registry (f.id vs) ≠ some f.template.kind := by
  obtain ⟨l, listed, id, k, kind, ne⟩ := priv.other
  rw [listedKind?, ← id, sound.find?_of_listed listed, Option.bind_some, kind]
  exact fun eq => ne (Option.some.inj eq)

/-- Two families over one registry keep the same instrument if and only if it is the same slot, or
the kinds and identities are the same and the registry lists the identity with that kind. -/
theorem Sound.kept_eq_iff (sound : h.Sound F R) {f g : Family} (hf : f ∈ F) (hg : g ∈ F)
    (live : f.scope.registry ∈ R) (home : g.scope.registry = f.scope.registry)
    {vs ws : List String} {m n : MeterRef} (kept : h.kept? f vs = some m)
    (kept' : h.kept? g ws = some n) :
    m = n ↔ slot f vs = slot g ws ∨ f.template.kind = g.template.kind ∧ f.id vs = g.id ws ∧
      h.listedKind? f.scope.registry (f.id vs) = some f.template.kind := by
  constructor
  · rintro rfl
    -- a private instrument is neither listed nor in a second slot
    rcases sound.kept hf live kept with shared | priv
    · rcases sound.kept hg (home ▸ live) kept' with shared' | priv'
      · obtain ⟨l, listed, id, meter⟩ := shared.listed
        obtain ⟨l', listed', id', meter'⟩ := shared'.listed
        obtain ⟨-, rfl⟩ := sound.listed_once listed listed' (meter.trans meter'.symm)
        have kinds := shared.kind.symm.trans shared'.kind
        exact .inr ⟨Option.some.inj kinds, id.symm.trans id', sound.listedKind?_of_shared shared⟩
      · obtain ⟨l, listed, -, meter⟩ := shared.listed
        exact absurd meter (priv'.unlisted listed)
    · exact .inl (priv.alone (mem_slots_of_kept? kept') rfl).symm
  · rintro (same | ⟨kind, id, listed⟩)
    · rw [kept?, same] at kept
      exact Option.some.inj (kept.symm.trans kept')
    · rcases sound.kept hf live kept with shared | priv
      · rcases sound.kept hg (home ▸ live) kept' with shared' | priv'
        · obtain ⟨l, mem, id₁, rfl⟩ := shared.listed
          obtain ⟨l', mem', id₂, rfl⟩ := shared'.listed
          rw [home] at mem'
          rw [sound.eq_of_id mem mem' (id₁.trans (id.trans id₂.symm))]
        · rw [id, kind, ← home] at listed
          exact absurd listed (sound.listedKind?_of_private priv')
      · exact absurd listed (sound.listedKind?_of_private priv)

/-! ## Lookups -/

variable [Amount α]

namespace Got

variable {f : Family} {vs : List String} {m : MeterRef} {h' : Hub α}

/-- The identities that a store lists then are those it listed before and the one asked for. -/
lemma mem_ids_iff (got : h.Got f vs m h') (sound : h.Sound F R) (live : f.scope.registry ∈ R)
    (hf : f ∈ F) (id : MeterId) :
    id ∈ (h'.listings f.scope.registry).map Listing.id ↔
      id ∈ (h.listings f.scope.registry).map Listing.id ∨ id = f.id vs := by
  have present {l} (listed : l ∈ h.listings f.scope.registry) (eq : l.id = f.id vs) :
      id ∈ (h.listings f.scope.registry).map Listing.id ↔
        id ∈ (h.listings f.scope.registry).map Listing.id ∨ id = f.id vs := by
    refine (or_iff_left_of_imp ?_).symm
    rintro rfl
    exact List.mem_map.2 ⟨l, listed, eq⟩
  cases got with
  | kept kept =>
    obtain ⟨l, listed, eq⟩ := sound.listed_of_kept hf live kept
    exact present listed eq
  | shared _ found => exact present (find?_some found).1 (find?_some found).2
  | clash _ found => exact present (find?_some found).1 (find?_some found).2
  | new =>
    rw [listings_keep, listings_enlist, if_pos ⟨rfl, sound.store live⟩]
    simp

/-- An identity that was not listed comes to be listed with a new instrument of the kind asked
for. -/
lemma listed_first (got : h.Got f vs m h') (sound : h.Sound F R) (live : f.scope.registry ∈ R)
    (hf : f ∈ F) (missing : f.id vs ∉ (h.listings f.scope.registry).map Listing.id) :
    ∃ l ∈ h'.listings f.scope.registry, l.id = f.id vs ∧
      h'.instrument? l.meter = some (.fresh f.template.kind) := by
  have absent {l} (listed : l ∈ h.listings f.scope.registry) : l.id ≠ f.id vs :=
    fun eq => missing (List.mem_map.2 ⟨l, listed, eq⟩)
  cases got with
  | kept kept =>
    obtain ⟨l, listed, eq⟩ := sound.listed_of_kept hf live kept
    exact absurd eq (absent listed)
  | shared _ found => exact absurd (find?_some found).2 (absent (find?_some found).1)
  | clash _ found => exact absurd (find?_some found).2 (absent (find?_some found).1)
  | new =>
    refine ⟨⟨f.id vs, f.template.description, h.next⟩, ?_, rfl, ?_⟩
    · rw [listings_keep, listings_enlist, if_pos ⟨rfl, sound.store live⟩]
      exact List.mem_append_right _ (List.mem_singleton_self _)
    · rw [instrument?_keep, instrument?_enlist, instrument?_push, if_pos rfl]

end Got

/-- The hub after lookups in order. -/
def lookUp (h : Hub α) (lookups : List Lookup) : Hub α :=
  lookups.foldl (fun h q => (h.get q.family q.values).2) h

/-- Lookups in order, with the instruments that they find. -/
def found (h : Hub α) : List Lookup → List (Lookup × MeterRef)
  | [] => []
  | q :: rest =>
    let (m, h) := h.get q.family q.values
    (q, m) :: h.found rest

/-- For every lookup a meter is found. -/
lemma map_fst_found (h : Hub α) (lookups : List Lookup) :
    (h.found lookups).map Prod.fst = lookups := by
  induction lookups generalizing h with
  | nil => rfl
  | cons q rest ih => exact congrArg (q :: ·) (ih _)

/-- Lookups are made one after the other. -/
lemma lookUp_append (h : Hub α) (before after : List Lookup) :
    h.lookUp (before ++ after) = (h.lookUp before).lookUp after :=
  List.foldl_append ..

/-- What a family keeps it keeps over further lookups. -/
lemma kept?_lookUp {f : Family} {vs : List String} {m : MeterRef} (kept : h.kept? f vs = some m)
    (lookups : List Lookup) : (h.lookUp lookups).kept? f vs = some m := by
  induction lookups generalizing h with
  | nil => exact kept
  | cons q rest ih => exact ih ((h.got_get q.family q.values).kept?_other kept)

/-- A hub stays sound over lookups. -/
lemma Sound.lookUp (sound : h.Sound F R) (apart : Family.Apart F) {lookups : List Lookup}
    (mem : ∀ q ∈ lookups, q.family ∈ F) : (h.lookUp lookups).Sound F R := by
  induction lookups generalizing h with
  | nil => exact sound
  | cons q rest ih =>
    exact ih (sound.get apart (mem q (List.mem_cons_self ..)) q.values)
      fun q' later => mem q' (List.mem_cons_of_mem q later)

/-- Lookups add listings behind those that are there. -/
lemma listings_isPrefix_lookUp (h : Hub α) (lookups : List Lookup) (r : RegistryRef) :
    h.listings r <+: (h.lookUp lookups).listings r := by
  induction lookups generalizing h with
  | nil => exact List.prefix_rfl
  | cons q rest ih => exact ((h.got_get q.family q.values).listings_isPrefix r).trans (ih _)

/-- Lookups leave listed instruments as they are. -/
lemma Sound.instrument?_lookUp (sound : h.Sound F R) (apart : Family.Apart F)
    {lookups : List Lookup} (mem : ∀ q ∈ lookups, q.family ∈ F) {r : RegistryRef} {l : Listing}
    (listed : l ∈ h.listings r) : (h.lookUp lookups).instrument? l.meter = h.instrument? l.meter := by
  induction lookups generalizing h with
  | nil => rfl
  | cons q rest ih =>
    have got := h.got_get q.family q.values
    have step := ih (sound.get apart (mem q (List.mem_cons_self ..)) q.values)
      (fun q' later => mem q' (List.mem_cons_of_mem q later))
      ((got.listings_isPrefix r).subset listed)
    exact step.trans (got.instrument?_eq (sound.listed_ne_next listed))

/-- After lookups over one store that was empty it lists exactly the identities looked up. -/
lemma Sound.mem_ids_lookUp (sound : h.Sound F R) (apart : Family.Apart F) {r : RegistryRef}
    (live : r ∈ R) {lookups : List Lookup} (mem : ∀ q ∈ lookups, q.family ∈ F)
    (home : ∀ q ∈ lookups, q.family.scope.registry = r) (id : MeterId) :
    id ∈ ((h.lookUp lookups).listings r).map Listing.id ↔
      id ∈ (h.listings r).map Listing.id ∨ ∃ q ∈ lookups, q.id = id := by
  induction lookups generalizing h with
  | nil => simp [Hub.lookUp]
  | cons q rest ih =>
    have hq := mem q (List.mem_cons_self ..)
    have hr := home q (List.mem_cons_self ..)
    have step := (h.got_get q.family q.values).mem_ids_iff sound (hr ▸ live) hq id
    rw [hr] at step
    have later := ih (sound.get apart hq q.values)
      (fun q' later => mem q' (List.mem_cons_of_mem q later))
      (fun q' later => home q' (List.mem_cons_of_mem q later))
    rw [step] at later
    refine later.trans ?_
    simp only [List.mem_cons, exists_eq_or_imp, or_assoc, Lookup.id, eq_comm (a := id)]

/-- In the end each family keeps what its lookups found. -/
lemma kept?_of_found {lookups : List Lookup} {x : Lookup × MeterRef}
    (found : x ∈ h.found lookups) : (h.lookUp lookups).kept? x.1.family x.1.values = some x.2 := by
  induction lookups generalizing h with
  | nil => cases found
  | cons q rest ih =>
    rcases List.mem_cons.1 found with rfl | later
    · exact kept?_lookUp (h.got_get q.family q.values).kept?_self rest
    · exact ih later

/-- What was looked up first under an identity decides the kind that is listed in the end. -/
lemma Sound.listedKind?_lookUp_first (sound : h.Sound F R) (apart : Family.Apart F)
    {r : RegistryRef} (live : r ∈ R) (empty : h.listings r = []) {before after : List Lookup}
    {q : Lookup} (mem : ∀ p ∈ before ++ q :: after, p.family ∈ F)
    (home : ∀ p ∈ before ++ q :: after, p.family.scope.registry = r)
    (first : ∀ p ∈ before, p.id ≠ q.id) :
    (h.lookUp (before ++ q :: after)).listedKind? r q.id = some q.kind := by
  have hq := mem q (List.mem_append_right _ (List.mem_cons_self ..))
  have hr := home q (List.mem_append_right _ (List.mem_cons_self ..))
  have memₗ : ∀ p ∈ before, p.family ∈ F := fun p hp => mem p (List.mem_append_left _ hp)
  have memᵣ : ∀ p ∈ after, p.family ∈ F :=
    fun p hp => mem p (List.mem_append_right _ (List.mem_cons_of_mem q hp))
  have sound₁ := sound.lookUp apart memₗ
  -- nobody has asked for the identity yet, so that this lookup lists it; it stays listed afterwards
  have missing : q.id ∉ ((h.lookUp before).listings r).map Listing.id := by
    rw [sound.mem_ids_lookUp apart live memₗ fun p hp => home p (List.mem_append_left _ hp), empty]
    rintro (listed | ⟨p, hp, id⟩)
    · cases listed
    · exact first p hp id
  have got := (h.lookUp before).got_get q.family q.values
  obtain ⟨l, listed, id, fresh⟩ := got.listed_first sound₁ (hr ▸ live) hq (hr ▸ missing)
  rw [hr] at listed
  have sound₂ := sound₁.got apart hq got
  have soundₙ := sound₂.lookUp apart memᵣ
  have listedₙ := (listings_isPrefix_lookUp _ after r).subset listed
  have freshₙ := sound₂.instrument?_lookUp apart memᵣ listed
  have split : h.lookUp (before ++ q :: after) =
      ((h.lookUp before).get q.family q.values).2.lookUp after := lookUp_append h before (q :: after)
  rw [split, listedKind?, Lookup.id, ← id, soundₙ.find?_of_listed listedₙ, Option.bind_some, kind?,
    freshₙ, fresh, Option.map_some, Instrument.kind_fresh]
  rfl

/-- Two lookups over a store find the same instrument if and only if they are for the same slot, or
kind and identity agree and in the end the store lists the identity with that kind. -/
lemma Sound.found_eq_iff (sound : h.Sound F R) (apart : Family.Apart F) {r : RegistryRef}
    (live : r ∈ R) {lookups : List Lookup} (mem : ∀ q ∈ lookups, q.family ∈ F)
    (home : ∀ q ∈ lookups, q.family.scope.registry = r) {x y : Lookup × MeterRef}
    (hx : x ∈ h.found lookups) (hy : y ∈ h.found lookups) :
    x.2 = y.2 ↔ x.1.family = y.1.family ∧
        x.1.family.key x.1.values = y.1.family.key y.1.values ∨
      x.1.kind = y.1.kind ∧ x.1.id = y.1.id ∧
        (h.lookUp lookups).listedKind? r x.1.id = some x.1.kind := by
  have asked {z} (hz : z ∈ h.found lookups) : z.1 ∈ lookups := by
    rw [← h.map_fst_found lookups]
    exact List.mem_map_of_mem hz
  have hxr := home x.1 (asked hx)
  have hyr := home y.1 (asked hy)
  have iff := (sound.lookUp apart mem).kept_eq_iff (mem x.1 (asked hx)) (mem y.1 (asked hy))
    (hxr ▸ live) (hyr.trans hxr.symm) (kept?_of_found hx) (kept?_of_found hy)
  rwa [slot_eq_iff_of_apart apart (mem x.1 (asked hx)) (mem y.1 (asked hy)), hxr] at iff

end Hub

/-! ## Families over one store -/

namespace Hub

section Declaration

variable {α : Type}

/-- Sets up families over a registry, each in a scope of its own. -/
def declare (h : Hub α) (r : RegistryRef) : List Template → List Family × Hub α
  | [] => ([], h)
  | t :: rest =>
    let (scope, h) := h.addScope r
    let (families, h) := h.declare r rest
    (⟨scope, t⟩ :: families, h)

/-- Declared families are of the registry, each of a new scope. -/
lemma of_mem_declare {h : Hub α} {r : RegistryRef} {templates : List Template} {f : Family}
    (mem : f ∈ (h.declare r templates).1) : f.scope.registry = r ∧ h.scopes ≤ f.scope.number := by
  induction templates generalizing h with
  | nil => cases mem
  | cons t rest ih =>
    rcases List.mem_cons.1 mem with rfl | later
    · exact ⟨rfl, Nat.le_refl _⟩
    · obtain ⟨registry, number⟩ := ih later
      exact ⟨registry, Nat.le_of_succ_le number⟩

/-- Declared families share no slots. -/
lemma apart_declare (h : Hub α) (r : RegistryRef) (templates : List Template) :
    Family.Apart {f | f ∈ (h.declare r templates).1} := by
  induction templates generalizing h with
  | nil => exact fun f mem => nomatch mem
  | cons t rest ih =>
    have later {f} (mem : f ∈ ((h.addScope r).2.declare r rest).1) : h.scopes < f.scope.number :=
      (of_mem_declare mem).2
    intro f hf g hg number name
    rcases List.mem_cons.1 hf with rfl | hf
    · rcases List.mem_cons.1 hg with rfl | hg
      · rfl
      · exact absurd (later hg) (by rw [← number]; exact Nat.lt_irrefl _)
    · rcases List.mem_cons.1 hg with rfl | hg
      · exact absurd (later hf) (by rw [number]; exact Nat.lt_irrefl _)
      · exact ih _ f hf g hg number name

/-- Declaring families takes one scope for each. -/
lemma declare_snd (h : Hub α) (r : RegistryRef) (templates : List Template) :
    (h.declare r templates).2 = { h with scopes := h.scopes + templates.length } := by
  induction templates generalizing h with
  | nil => rfl
  | cons t rest ih =>
    refine (ih _).trans ?_
    simp only [List.length_cons, Nat.add_assoc, Nat.add_comm 1]

end Declaration

variable {α : Type} [Amount α]

/-- Families are set up over an empty store and asked for instruments in any order. Every lookup
finds an instrument. Within a family two lookups find the same one if and only if their values
agree as far as the family has labels. Across families they do if and only if kind and identity
agree and the store lists the identity with that kind. The store lists each identity that was looked
up once and nothing else, with the kind of the lookup that came first; what it lists and its state
are not changed by later lookups. -/
theorem instruments_of_lookups (templates : List Template) (lookups : List Lookup)
    (declared : ∀ q ∈ lookups, q.family ∈ ((ofStore : Hub α).declare store templates).1) :
    let start := ((ofStore : Hub α).declare store templates).2
    let final := start.lookUp lookups
    (start.found lookups).map Prod.fst = lookups ∧
    (∀ x ∈ start.found lookups, ∀ y ∈ start.found lookups, x.1.family = y.1.family →
      (x.2 = y.2 ↔ x.1.values.take x.1.family.template.keys.length =
        y.1.values.take x.1.family.template.keys.length)) ∧
    (∀ x ∈ start.found lookups, ∀ y ∈ start.found lookups, x.1.family ≠ y.1.family →
      (x.2 = y.2 ↔ x.1.kind = y.1.kind ∧ x.1.id = y.1.id ∧
        final.listedKind? store x.1.id = some x.1.kind)) ∧
    ((final.listings store).map Listing.id).Nodup ∧
    (∀ id, id ∈ (final.listings store).map Listing.id ↔ ∃ q ∈ lookups, q.id = id) ∧
    (∀ before q after, lookups = before ++ q :: after → (∀ p ∈ before, p.id ≠ q.id) →
      final.listedKind? store q.id = some q.kind) ∧
    (∀ before after, lookups = before ++ after →
      (start.lookUp before).listings store <+: final.listings store ∧
      ∀ l ∈ (start.lookUp before).listings store,
        final.instrument? l.meter = (start.lookUp before).instrument? l.meter) := by
  intro start final
  let F : Set Family := {f | f ∈ ((ofStore : Hub α).declare store templates).1}
  have apart : Family.Apart F := apart_declare _ _ _
  have start_eq : start = { (ofStore : Hub α) with scopes := templates.length } :=
    (declare_snd ..).trans (by rw [ofStore, empty, addRegistry, Nat.zero_add])
  have sound : start.Sound F {store} := start_eq ▸ sound_ofStore.scopes _
  have empty : start.listings store = [] := by rw [start_eq]; rfl
  have home : ∀ q ∈ lookups, q.family.scope.registry = store :=
    fun q mem => (of_mem_declare (declared q mem)).1
  have found_eq_iff {x y} := sound.found_eq_iff (x := x) (y := y) apart rfl declared home
  refine ⟨map_fst_found .., ?_, ?_, (sound.lookUp apart declared).ids_nodup store, ?_, ?_, ?_⟩
  -- in one family the key decides, between families identity and listed kind
  · intro x hx y hy family
    have key : x.1.family.key x.1.values = y.1.family.key y.1.values ↔
        x.1.values.take x.1.family.template.keys.length =
          y.1.values.take x.1.family.template.keys.length := by
      rw [← family, Family.key, Family.key, LabelKey.ofValues, LabelKey.ofValues,
        LabelKey.mk.injEq]
    rw [found_eq_iff hx hy, ← key]
    constructor
    · rintro (⟨-, eq⟩ | ⟨-, id, -⟩)
      · exact eq
      · rw [Lookup.id, Lookup.id, ← family, Family.id_eq_iff] at id
        rwa [← family]
    · exact fun eq => .inl ⟨family, eq⟩
  · intro x hx y hy family
    rw [found_eq_iff hx hy]
    exact or_iff_right fun same => family same.1
  · intro id
    rw [sound.mem_ids_lookUp apart rfl declared home, empty]
    exact or_iff_right List.not_mem_nil
  · rintro before q after rfl first
    exact sound.listedKind?_lookUp_first apart rfl empty declared home first
  · rintro before after rfl
    have memₗ : ∀ q ∈ before, q.family ∈ F := fun q hq => declared q (List.mem_append_left _ hq)
    have memᵣ : ∀ q ∈ after, q.family ∈ F := fun q hq => declared q (List.mem_append_right _ hq)
    rw [show final = (start.lookUp before).lookUp after from lookUp_append ..]
    exact ⟨listings_isPrefix_lookUp .., fun l listed =>
      (sound.lookUp apart memₗ).instrument?_lookUp apart memᵣ listed⟩

/-- A counter asked with a surplus value, a gauge of the same name, and a counter of that name with
one more label asked for too few values meet on one identity, which is listed as a counter. -/
theorem instruments_of_meeting_lookups :
    let counter : Family := ⟨⟨0, store⟩, ⟨.counter, "m", "", ["k"]⟩⟩
    let gauge : Family := ⟨⟨1, store⟩, ⟨.gauge, "m", "", ["k"]⟩⟩
    let longer : Family := ⟨⟨2, store⟩, ⟨.counter, "m", "longer", ["k", "j"]⟩⟩
    let templates := [counter, gauge, longer].map Family.template
    let lookups : List Lookup := [⟨counter, ["a", "b"]⟩, ⟨gauge, ["a"]⟩, ⟨longer, ["a"]⟩]
    let final := ((ofStore : Hub Float).declare store templates).2.lookUp lookups
    (∀ q ∈ lookups, q.family ∈ ((ofStore : Hub Float).declare store templates).1) ∧
      final.listedKind? store (gauge.id ["a"]) = some .counter ∧
      ∀ id, id ∈ (final.listings store).map Listing.id ↔ id = ⟨"m", [⟨"k", "a"⟩]⟩ := by
  intro counter gauge longer templates lookups final
  have declared : ∀ q ∈ lookups, q.family ∈ ((ofStore : Hub Float).declare store templates).1 := by
    decide
  have same : ∀ q ∈ lookups, q.id = ⟨"m", [⟨"k", "a"⟩]⟩ := by decide
  have id : gauge.id ["a"] = ⟨"m", [⟨"k", "a"⟩]⟩ := by decide
  have all := instruments_of_lookups templates lookups declared
  refine ⟨declared, ?_, fun id => ?_⟩
  · have first := all.2.2.2.2.2.1 [] ⟨counter, ["a", "b"]⟩ _ rfl fun p mem => nomatch mem
    rw [same _ (List.mem_cons_self ..)] at first
    rw [id]
    exact first
  · refine (all.2.2.2.2.1 id).trans ?_
    constructor
    · rintro ⟨q, mem, rfl⟩
      exact same q mem
    · rintro rfl
      exact ⟨_, List.mem_cons_self .., same _ (List.mem_cons_self ..)⟩

end Hub

end Metering
