import Mathlib.Data.Set.Insert
import Mathlib.Data.List.Nodup
import Mathlib.Tactic.Lemma
import Metering.Hub

/-!
# Access to instruments

The four ways in which a family comes by an instrument (`Hub.Got`): it keeps one already, its
registry lists one of its kind, its registry lists one of another kind, or nothing is listed yet.
`Hub.got_get` says that there are no others. What each of them leaves behind is described by two
updates of the hub, `Hub.keep` for the family and `Hub.enlist` for the registry.
-/

namespace Metering

/-- Whether the registry lists what is registered. -/
def Registry.isStore : Registry → Bool
  | .store _ => true
  | .discarding => false

/-- A store stays one when a meter is listed. -/
@[simp] lemma Registry.isStore_list (r : Registry) (l : Listing) :
    (r.list l).isStore = r.isStore := by
  cases r <;> rfl

/-- Within a scope the name tells the families of a collection apart. -/
def Family.Apart (F : Set Family) : Prop :=
  ∀ f ∈ F, ∀ g ∈ F, f.scope.number = g.scope.number → f.template.name = g.template.name → f = g

/-- The values of an identity can be read off it if there are keys for all of them. -/
lemma MeterId.values_ofLabels (name : String) {keys values : List String}
    (enough : values.length ≤ keys.length) :
    (MeterId.ofLabels name keys values).tags.map Tag.value = values := by
  rw [ofLabels]
  induction values generalizing keys with
  | nil => rw [List.zipWith_nil_right]; rfl
  | cons v values ih =>
    cases keys with
    | nil => simp at enough
    | cons k keys =>
      rw [List.zipWith_cons_cons, List.map_cons, ih (Nat.le_of_succ_le_succ enough)]

/-- The identity in a family depends on the key of the values only. -/
lemma Family.id_eq_of_key (f : Family) {vs ws : List String} (key : f.key vs = f.key ws) :
    f.id vs = f.id ws := by
  rw [id, id, key]

/-- Within a family keys and identities correspond. -/
lemma Family.id_eq_iff (f : Family) (vs ws : List String) :
    f.id vs = f.id ws ↔ f.key vs = f.key ws := by
  constructor
  · intro eq
    have values (us : List String) : (f.id us).tags.map Tag.value = (f.key us).values :=
      MeterId.values_ofLabels _ (by simp [Family.key, LabelKey.ofValues])
    have same : (f.key vs).values = (f.key ws).values := by rw [← values, ← values, eq]
    cases h₁ : f.key vs; cases h₂ : f.key ws
    rw [h₁, h₂] at same
    cases same
    rfl
  · exact f.id_eq_of_key

namespace Hub

variable {α : Type} {h : Hub α}

/-- The kind of an instrument. -/
def kind? (h : Hub α) (m : MeterRef) : Option Kind :=
  (h.instrument? m).map Instrument.kind

/-- The meters that a registry lists. -/
def listings (h : Hub α) (r : RegistryRef) : List Listing :=
  (h.registry r).listings

/-- The hub after a family has come to keep an instrument. -/
def keep (h : Hub α) (f : Family) (values : List String) (m : MeterRef) : Hub α :=
  { h with slots := (slot f values, m) :: h.slots }

/-- The hub after a registry has come to list a meter. -/
def enlist (h : Hub α) (r : RegistryRef) (l : Listing) : Hub α :=
  { h with registries := h.registries.modify r.index (Registry.list · l) }

/-- The hub with one more instrument. -/
def push (h : Hub α) (i : Instrument α) : Hub α :=
  { h with instruments := h.instruments.push i }

/-- The next instrument of the hub. -/
def next (h : Hub α) : MeterRef := ⟨h.instruments.size⟩

/-- The registry of the hub with one store. -/
def store : RegistryRef := ⟨0⟩

/-- The hub with one store and nothing else. -/
def ofStore : Hub α := (empty.addRegistry (.store [])).2

/-! ## Slots -/

/-- A slot stands for a scope, a name and a key. -/
lemma slot_eq_iff {f g : Family} {vs ws : List String} :
    slot f vs = slot g ws ↔ f.scope.number = g.scope.number ∧ f.template.name = g.template.name ∧
      f.key vs = g.key ws := by
  simp only [slot, Slot.mk.injEq]

/-- Families that are told apart share a slot only if they are the same. -/
lemma slot_eq_iff_of_apart {F : Set Family} (apart : Family.Apart F) {f g : Family} (hf : f ∈ F)
    (hg : g ∈ F) {vs ws : List String} : slot f vs = slot g ws ↔ f = g ∧ f.key vs = g.key ws := by
  rw [slot_eq_iff]
  constructor
  · rintro ⟨number, name, key⟩
    exact ⟨apart f hf g hg number name, key⟩
  · rintro ⟨rfl, key⟩
    exact ⟨rfl, rfl, key⟩

/-- What is kept is found under its own slot, and nothing else changes. -/
@[simp] lemma kept?_keep (h : Hub α) (f g : Family) (vs ws : List String) (m : MeterRef) :
    (h.keep f vs m).kept? g ws = if slot g ws = slot f vs then some m else h.kept? g ws := by
  simp only [kept?, keep, List.lookup_cons]
  by_cases same : slot g ws = slot f vs
  · simp [same]
  · simp [same, beq_false_of_ne same]

/-- What a family keeps stands in its slot. -/
lemma mem_slots_of_kept? {f : Family} {vs : List String} {m : MeterRef}
    (kept : h.kept? f vs = some m) : (slot f vs, m) ∈ h.slots := by
  obtain ⟨before, after, eq, -⟩ := List.lookup_eq_some_iff.1 kept
  rw [eq]
  exact List.mem_append_right _ (List.mem_cons_self ..)

/-- A new instrument is kept by no family. -/
@[simp] lemma kept?_push (h : Hub α) (i : Instrument α) (f : Family) (vs : List String) :
    (h.push i).kept? f vs = h.kept? f vs := rfl

/-- A listing changes nothing that families keep. -/
@[simp] lemma kept?_enlist (h : Hub α) (r : RegistryRef) (l : Listing) (f : Family)
    (vs : List String) : (h.enlist r l).kept? f vs = h.kept? f vs := rfl

/-! ## Instruments -/

/-- Instruments do not change when a family keeps one. -/
@[simp] lemma instrument?_keep (h : Hub α) (f : Family) (vs : List String) (m n : MeterRef) :
    (h.keep f vs m).instrument? n = h.instrument? n := rfl

/-- Instruments do not change when one is listed. -/
@[simp] lemma instrument?_enlist (h : Hub α) (r : RegistryRef) (l : Listing) (m : MeterRef) :
    (h.enlist r l).instrument? m = h.instrument? m := rfl

/-- A new instrument comes next, and the others stay. -/
lemma instrument?_push (h : Hub α) (i : Instrument α) (m : MeterRef) :
    (h.push i).instrument? m = if m = h.next then some i else h.instrument? m := by
  have last : m = h.next ↔ m.index = h.instruments.size := by
    rw [next, MeterRef.mk.injEq]
  simp only [instrument?, push, Array.getElem?_push, last]

/-- The instruments that are there have a kind. -/
lemma kind?_isSome_iff {m : MeterRef} : (h.kind? m).isSome ↔ m.index < h.instruments.size := by
  simp [kind?, instrument?]

/-- What is not there yet has no kind. -/
lemma kind?_eq_none_iff {m : MeterRef} : h.kind? m = none ↔ h.instruments.size ≤ m.index := by
  simp [kind?, instrument?]

/-- An instrument of some kind is none that is still to come. -/
lemma ne_next_of_kind? {m : MeterRef} {k : Kind} (kind : h.kind? m = some k) : m ≠ h.next := by
  rintro rfl
  have missing : h.kind? h.next = none := kind?_eq_none_iff.2 (Nat.le_refl _)
  rw [kind] at missing
  cases missing

/-- Kinds do not change when a meter is listed. -/
@[simp] lemma kind?_enlist (h : Hub α) (r : RegistryRef) (l : Listing) (m : MeterRef) :
    (h.enlist r l).kind? m = h.kind? m := rfl

/-- A new instrument brings its kind. -/
lemma kind?_push (h : Hub α) (i : Instrument α) (m : MeterRef) :
    (h.push i).kind? m = if m = h.next then some i.kind else h.kind? m := by
  rw [kind?, instrument?_push]
  split <;> rfl

/-! ## Listings -/

/-- Nothing is listed when a family keeps an instrument. -/
@[simp] lemma listings_keep (h : Hub α) (f : Family) (vs : List String) (m : MeterRef)
    (r : RegistryRef) : (h.keep f vs m).listings r = h.listings r := rfl

/-- Nothing is listed when an instrument is made. -/
@[simp] lemma listings_push (h : Hub α) (i : Instrument α) (r : RegistryRef) :
    (h.push i).listings r = h.listings r := rfl

/-- Changing one registry leaves the others; where there is none, nothing is changed. -/
lemma registry_modify (h : Hub α) (r s : RegistryRef) (change : Registry → Registry)
    (fixed : change .discarding = .discarding) :
    { h with registries := h.registries.modify r.index change }.registry s =
      if s = r then change (h.registry s) else h.registry s := by
  obtain ⟨i⟩ := r
  obtain ⟨j⟩ := s
  simp only [registry, Array.getD_eq_getD_getElem?, Array.getElem?_modify, RegistryRef.mk.injEq,
    eq_comm (a := j)]
  by_cases same : i = j
  · subst same
    rw [if_pos rfl, if_pos rfl]
    cases h.registries[i]? with
    | none => exact fixed.symm  -- no such registry: what is read is the discarding one
    | some registry => rfl
  · rw [if_neg same, if_neg same]

/-- A meter is listed in one registry only. -/
lemma registry_enlist (h : Hub α) (r s : RegistryRef) (l : Listing) :
    (h.enlist r l).registry s = if s = r then (h.registry s).list l else h.registry s :=
  h.registry_modify r s (Registry.list · l) rfl

/-- Only a store lists what is registered with it. -/
lemma listings_enlist (h : Hub α) (r s : RegistryRef) (l : Listing) :
    (h.enlist r l).listings s =
      if s = r ∧ (h.registry r).isStore then h.listings s ++ [l] else h.listings s := by
  unfold listings
  rw [registry_enlist]
  by_cases same : s = r
  · subst same
    rw [if_pos rfl]
    cases h.registry s <;> simp [Registry.isStore, Registry.list, Registry.listings]
  · rw [if_neg same, if_neg (fun both => same both.1)]

/-- A registry that is cleared lists nothing, and the others what they did. -/
lemma listings_clear (h : Hub α) (r s : RegistryRef) :
    (h.clear r).listings s = if s = r then [] else h.listings s := by
  unfold listings clear
  rw [registry_modify h r s Registry.clear rfl]
  split
  · cases h.registry s <;> rfl
  · rfl

/-- There was nothing where a new registry is added. -/
@[simp] lemma registry_addRegistry_fst (h : Hub α) (new : Registry) :
    h.registry (h.addRegistry new).1 = .discarding := by
  simp [registry, addRegistry]

/-- A new registry is found under its reference, and the others stay. -/
lemma registry_addRegistry (h : Hub α) (new : Registry) (r : RegistryRef) :
    (h.addRegistry new).2.registry r =
      if r = (h.addRegistry new).1 then new else h.registry r := by
  have last : r = (h.addRegistry new).1 ↔ r.index = h.registries.size :=
    ⟨fun eq => by rw [eq]; rfl, fun eq => by cases r; cases eq; rfl⟩
  simp only [last]
  simp only [registry, addRegistry, Array.getD_eq_getD_getElem?, Array.getElem?_push]
  split <;> rfl

/-- Where no registry was, nothing was listed. -/
lemma listings_addRegistry (h : Hub α) (new : Registry) (empty : new.listings = [])
    (r : RegistryRef) : (h.addRegistry new).2.listings r = h.listings r := by
  unfold listings
  rw [registry_addRegistry]
  split
  case isTrue eq =>
    rw [eq, registry_addRegistry_fst, empty]
    rfl
  case isFalse => rfl

/-- A listing that is found is listed, and has the identity. -/
lemma find?_some {r : RegistryRef} {id : MeterId} {l : Listing}
    (found : (h.registry r).find? id = some l) : l ∈ h.listings r ∧ l.id = id :=
  ⟨List.mem_of_find?_eq_some found, by simpa using List.find?_some found⟩

/-- Where no listing is found, none has the identity. -/
lemma find?_none {r : RegistryRef} {id : MeterId} (missing : (h.registry r).find? id = none)
    {l : Listing} (listed : l ∈ h.listings r) : l.id ≠ id := by
  have absent := List.find?_eq_none.1 missing l listed
  simpa using absent

/-- Registering fails if and only if the identity is listed with another kind. -/
lemma register_isError_iff (h : Hub α) (r : RegistryRef) (id : MeterId) (description : String)
    (i : Instrument α) :
    (∃ e, h.register r id description i = .error e) ↔
      ∃ l, (h.registry r).find? id = some l ∧ (h.kind? l.meter).getD i.kind ≠ i.kind := by
  unfold register
  cases found : (h.registry r).find? id with
  | none => simp
  | some l =>
    simp only [kind?, Option.some.injEq, exists_eq_left']
    split <;> simp_all

variable [Amount α]

/-! ## Changes -/

/-- A change applies to one instrument. -/
lemma instrument?_change (h : Hub α) (m n : MeterRef) (c : Change α) :
    (h.change m c).instrument? n =
      if n = m then (h.instrument? n).map (Instrument.apply c) else h.instrument? n := by
  have same : n = m ↔ m.index = n.index := by
    rw [eq_comm]
    exact ⟨fun eq => by rw [eq], fun eq => by cases m; cases n; cases eq; rfl⟩
  simp only [instrument?, Hub.change, Array.getElem?_modify, same]

/-- A change leaves all kinds as they are. -/
@[simp] lemma kind?_change (h : Hub α) (m n : MeterRef) (c : Change α) :
    (h.change m c).kind? n = h.kind? n := by
  rw [kind?, kind?, instrument?_change]
  split
  · cases h.instrument? n with
    | none => rfl
    | some i => simp
  · rfl

/-- A change makes no instrument. -/
@[simp] lemma instruments_size_change (h : Hub α) (m : MeterRef) (c : Change α) :
    (h.change m c).instruments.size = h.instruments.size :=
  Array.size_modify ..

/-! ## Ways to an instrument -/

/-- How a family comes by an instrument for some values, and what it leaves behind. -/
inductive Got (h : Hub α) (f : Family) (values : List String) : MeterRef → Hub α → Prop where
  /-- The family keeps one already. -/
  | kept {m} (kept : h.kept? f values = some m) : Got h f values m h
  /-- The registry lists one that is not of another kind. -/
  | shared {l} (unkept : h.kept? f values = none)
      (found : (h.registry f.scope.registry).find? (f.id values) = some l)
      (kind : (h.kind? l.meter).getD f.template.kind = f.template.kind) :
      Got h f values l.meter (h.keep f values l.meter)
  /-- The registry lists one of another kind, so that the family gets one of its own. -/
  | clash {l} (unkept : h.kept? f values = none)
      (found : (h.registry f.scope.registry).find? (f.id values) = some l)
      (kind : (h.kind? l.meter).getD f.template.kind ≠ f.template.kind) :
      Got h f values h.next ((h.push (.fresh f.template.kind)).keep f values h.next)
  /-- The registry lists none, so that a new one is registered. -/
  | new (unkept : h.kept? f values = none)
      (missing : (h.registry f.scope.registry).find? (f.id values) = none) :
      Got h f values h.next (((h.push (.fresh f.template.kind)).enlist f.scope.registry
        ⟨f.id values, f.template.description, h.next⟩).keep f values h.next)

/-- There are no other ways. -/
theorem got_get (h : Hub α) (f : Family) (values : List String) :
    Got h f values (h.get f values).1 (h.get f values).2 := by
  unfold Hub.get
  cases unkept : h.kept? f values with
  | some m => exact .kept unkept
  | none =>
    unfold register
    cases found : (h.registry f.scope.registry).find? (f.id values) with
    | none => exact .new unkept found
    | some l =>
      simp only [Instrument.kind_fresh]
      by_cases kind : (h.kind? l.meter).getD f.template.kind = f.template.kind
      · have shared := Got.shared unkept found kind
        rw [kind?] at kind
        rw [if_pos kind]
        exact shared
      · have clash := Got.clash unkept found kind
        rw [kind?] at kind
        rw [if_neg kind]
        exact clash

namespace Got

variable {f : Family} {vs : List String} {m : MeterRef} {h' : Hub α}

/-- The family keeps the meter that it got. -/
lemma kept?_self (got : h.Got f vs m h') : h'.kept? f vs = some m := by
  cases got with
  | kept kept => exact kept
  | shared => rw [kept?_keep, if_pos rfl]
  | clash => rw [kept?_keep, if_pos rfl]
  | new => rw [kept?_keep, if_pos rfl]

/-- Whatever families kept before, they keep. -/
lemma kept?_other (got : h.Got f vs m h') {g : Family} {ws : List String} {n : MeterRef}
    (kept : h.kept? g ws = some n) : h'.kept? g ws = some n := by
  have other (unkept : h.kept? f vs = none) : slot g ws ≠ slot f vs := by
    intro same
    rw [kept?, same] at kept
    rw [kept?, kept] at unkept
    cases unkept
  cases got with
  | kept => exact kept
  | shared unkept => rw [kept?_keep, if_neg (other unkept), kept]
  | clash unkept => rw [kept?_keep, if_neg (other unkept), kept?_push, kept]
  | new unkept => rw [kept?_keep, if_neg (other unkept), kept?_enlist, kept?_push, kept]

/-- Listings are added behind those that are there. -/
lemma listings_isPrefix (got : h.Got f vs m h') (r : RegistryRef) :
    h.listings r <+: h'.listings r := by
  cases got with
  | kept => exact List.prefix_rfl
  | shared => exact List.prefix_rfl
  | clash => exact List.prefix_rfl
  | new =>
    rw [listings_keep, listings_enlist]
    split
    · exact List.prefix_append ..
    · exact List.prefix_rfl

/-- What comes to be listed is what the family asks for. -/
lemma mem_listings (got : h.Got f vs m h') {r : RegistryRef} {l : Listing}
    (listed : l ∈ h'.listings r) :
    l ∈ h.listings r ∨ f.scope.registry = r ∧ f.id vs = l.id := by
  cases got with
  | kept => exact .inl listed
  | shared => exact .inl listed
  | clash => exact .inl listed
  | new =>
    rw [listings_keep, listings_enlist] at listed
    split at listed
    case isTrue both =>
      rcases List.mem_append.1 listed with old | new
      · exact .inl old
      · rw [List.mem_singleton.1 new]
        exact .inr ⟨both.1.symm, rfl⟩
    case isFalse => exact .inl listed

/-- No instrument that exists is changed. -/
lemma instrument?_eq (got : h.Got f vs m h') {n : MeterRef} (exists_ : n ≠ h.next) :
    h'.instrument? n = h.instrument? n := by
  cases got with
  | kept => rfl
  | shared => rfl
  | clash => rw [instrument?_keep, instrument?_push, if_neg exists_]
  | new => rw [instrument?_keep, instrument?_enlist, instrument?_push, if_neg exists_]

/-- Only the instrument that the family comes by can be new. -/
lemma eq_of_instrument?_ne (got : h.Got f vs m h') {n : MeterRef}
    (ne : h'.instrument? n ≠ h.instrument? n) : n = m := by
  cases got with
  | kept => exact absurd rfl ne
  | shared => exact absurd rfl ne
  | clash =>
    rw [instrument?_keep, instrument?_push] at ne
    by_contra other
    exact ne (if_neg other)
  | new =>
    rw [instrument?_keep, instrument?_enlist, instrument?_push] at ne
    by_contra other
    exact ne (if_neg other)

/-- Other registries list what they did. -/
lemma listings_eq (got : h.Got f vs m h') {r : RegistryRef} (other : r ≠ f.scope.registry) :
    h'.listings r = h.listings r := by
  cases got with
  | kept => rfl
  | shared => rfl
  | clash => rfl
  | new => rw [listings_keep, listings_enlist, if_neg fun both => other both.1, listings_push]

/-- What comes to be kept is kept in a slot of the family's scope. -/
lemma mem_slots (got : h.Got f vs m h') {p : Slot × MeterRef} (mem : p ∈ h'.slots) :
    p ∈ h.slots ∨ p.1.scope = f.scope.number := by
  have first {g : Hub α} {n : MeterRef} (mem : p ∈ (slot f vs, n) :: g.slots) :
      p ∈ g.slots ∨ p.1.scope = f.scope.number := by
    rcases List.mem_cons.1 mem with rfl | old
    · exact .inr rfl
    · exact .inl old
  cases got with
  | kept => exact .inl mem
  | shared => exact first mem
  | clash => exact first mem
  | new => exact first mem

/-- No scope is begun when a family gets a meter. -/
lemma scopes_eq (got : h.Got f vs m h') : h'.scopes = h.scopes := by
  cases got <;> rfl

/-- No registry is added when a family gets a meter. -/
lemma registries_size_eq (got : h.Got f vs m h') :
    h'.registries.size = h.registries.size := by
  cases got with
  | kept => rfl
  | shared => rfl
  | clash => rfl
  | new => exact Array.size_modify ..

end Got

/-! ## Runs of touches -/

/-- Touches are performed one after the other. -/
lemma perform_append (h : Hub α) (ts us : List (Touch α)) :
    h.perform (ts ++ us) = (h.perform ts).perform us :=
  List.foldl_append ..

/-- Touches add no scopes and no registries, and slots only in the scopes of their families. -/
lemma perform_bounds (h : Hub α) (ts : List (Touch α)) :
    (h.perform ts).scopes = h.scopes ∧ (h.perform ts).registries.size = h.registries.size ∧
      ∀ p ∈ (h.perform ts).slots, p ∈ h.slots ∨ ∃ t ∈ ts, p.1.scope = t.family.scope.number := by
  induction ts generalizing h with
  | nil => exact ⟨rfl, rfl, fun _ mem => .inl mem⟩
  | cons t ts ih =>
    obtain ⟨scopes, registries, slots⟩ := ih (h.touch t)
    have got := h.got_get t.family t.values
    refine ⟨scopes.trans got.scopes_eq, registries.trans got.registries_size_eq, ?_⟩
    intro p mem
    rcases slots p mem with old | ⟨t', mem', scope⟩
    · exact (got.mem_slots old).imp_right fun scope => ⟨t, List.mem_cons_self .., scope⟩
    · exact .inr ⟨t', List.mem_cons_of_mem t mem', scope⟩

/-- After a touch the family keeps what it touched, so that asking again changes nothing. -/
lemma get_touch (h : Hub α) (t : Touch α) :
    (h.touch t).get t.family t.values = ((h.get t.family t.values).1, h.touch t) := by
  have kept : (h.touch t).kept? t.family t.values = some (h.get t.family t.values).1 :=
    (h.got_get t.family t.values).kept?_self
  rw [Hub.get, kept]

end Hub

end Metering
