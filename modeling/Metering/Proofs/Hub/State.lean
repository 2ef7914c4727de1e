import Metering.Proofs.Hub.Sound

/-!
# The state of a registry

What a registry lists under each identity, with its present state (`Hub.stateOf`). Where families of
one name are of one kind, no family keeps an instrument of its own, so that a touch changes exactly
the meter of its identity: `Sound.stateOf_touch` describes a registry that was never cleared,
`Sound.frame_touch` all registries but the touched one.
-/

namespace Metering

/-- Families over one registry that have the same name are of the same kind. -/
def Family.Concordant (F : Set Family) : Prop :=
  ∀ f ∈ F, ∀ g ∈ F, f.scope.registry = g.scope.registry → f.template.name = g.template.name →
    f.template.kind = g.template.kind

namespace Touch

variable {α : Type}

/-- The identity of the meter that is touched. -/
def id (t : Touch α) : MeterId := t.family.id t.values

/-- The registry of the meter that is touched. -/
def registry (t : Touch α) : RegistryRef := t.family.scope.registry

/-- The kind of the meter that is touched. -/
def kind (t : Touch α) : Kind := t.family.template.kind

/-- The state of a meter after a touch. A meter that is not there yet begins as a fresh one. -/
def after [Amount α] (state : Option (Instrument α)) (t : Touch α) : Option (Instrument α) :=
  some ((state.getD (.fresh t.kind)).apply t.change)

end Touch

namespace Hub

variable {α : Type} {h : Hub α} {F : Set Family} {R : Set RegistryRef}

/-- The state of the meter that a registry lists under an identity. -/
def stateOf (h : Hub α) (r : RegistryRef) (id : MeterId) : Option (Instrument α) :=
  ((h.registry r).find? id).bind fun l => h.instrument? l.meter

/-- No state changes when a family keeps a meter. -/
@[simp] lemma stateOf_keep (h : Hub α) (f : Family) (vs : List String) (m : MeterRef)
    (r : RegistryRef) (id : MeterId) : (h.keep f vs m).stateOf r id = h.stateOf r id := rfl

/-- The state of a listed identity is that of its instrument. -/
lemma Sound.stateOf_of_listed (sound : h.Sound F R) {r : RegistryRef} {l : Listing}
    (listed : l ∈ h.listings r) : h.stateOf r l.id = h.instrument? l.meter := by
  rw [stateOf, sound.find?_of_listed listed, Option.bind_some]

/-- An identity that is not listed has no state. -/
lemma stateOf_of_missing {r : RegistryRef} {id : MeterId}
    (missing : (h.registry r).find? id = none) : h.stateOf r id = none := by
  rw [stateOf, missing, Option.bind_none]

/-- An identity that has a state is listed with an instrument in it. -/
lemma listed_of_stateOf {r : RegistryRef} {id : MeterId} {i : Instrument α}
    (state : h.stateOf r id = some i) :
    ∃ l ∈ h.listings r, l.id = id ∧ h.instrument? l.meter = some i := by
  obtain ⟨l, found, instrument⟩ := Option.bind_eq_some_iff.1 state
  obtain ⟨listed, eq⟩ := find?_some found
  exact ⟨l, listed, eq, instrument⟩

/-- Where families of one name are of one kind, what a family keeps is listed. -/
lemma Sound.shared_of_kept (sound : h.Sound F R) (concordant : Family.Concordant F) {f : Family}
    (hf : f ∈ F) (live : f.scope.registry ∈ R) {vs : List String} {m : MeterRef}
    (kept : h.kept? f vs = some m) : h.Shared f vs m := by
  rcases sound.kept hf live kept with shared | priv
  · exact shared
  · -- the meter of another kind that is listed instead would come from a family of the same name
    obtain ⟨l, listed, id, k, kind, ne⟩ := priv.other
    obtain ⟨g, hg, registry, name, kind'⟩ := sound.stem listed
    have name' : f.template.name = g.template.name := by
      rw [name, id]
      rfl
    rw [kind, ← concordant f hf g hg registry.symm name'] at kind'
    exact absurd (Option.some.inj kind') ne

/-- A meter that has the name of a family is of the kind of the family. -/
lemma Sound.kind_of_listed (sound : h.Sound F R) (concordant : Family.Concordant F) {f : Family}
    (hf : f ∈ F) {l : Listing} (listed : l ∈ h.listings f.scope.registry)
    (name : l.id.name = f.template.name) : h.kind? l.meter = some f.template.kind := by
  obtain ⟨g, hg, registry, name', kind⟩ := sound.stem listed
  rw [kind, concordant g hg f hf registry (name'.trans name)]

/-- The state of an identity of a family is of the kind of the family. -/
lemma Sound.kind_of_stateOf (sound : h.Sound F R) (concordant : Family.Concordant F) {f : Family}
    (hf : f ∈ F) {vs : List String} {i : Instrument α}
    (state : h.stateOf f.scope.registry (f.id vs) = some i) : i.kind = f.template.kind := by
  obtain ⟨l, listed, id, instrument⟩ := listed_of_stateOf state
  have kind := sound.kind_of_listed concordant hf listed (by rw [id]; rfl)
  rw [kind?, instrument, Option.map_some] at kind
  exact Option.some.inj kind

/-- The meters of a registry are those that it lists. -/
lemma mem_meters {r : RegistryRef} {m : Meter α} : m ∈ h.meters r ↔
    ∃ l ∈ h.listings r, (l.id = m.id ∧ l.description = m.description) ∧
      h.instrument? l.meter = some m.instrument := by
  have meterOf (l : Listing) : h.meterOf l = some m ↔
      (l.id = m.id ∧ l.description = m.description) ∧ h.instrument? l.meter = some m.instrument := by
    obtain ⟨id, description, i⟩ := m
    rw [Hub.meterOf, Option.map_eq_some_iff]
    constructor
    · rintro ⟨i', instrument, same⟩
      cases same
      exact ⟨⟨rfl, rfl⟩, instrument⟩
    · rintro ⟨⟨rfl, rfl⟩, instrument⟩
      exact ⟨i, instrument, rfl⟩
  rw [meters, List.mem_filterMap]
  exact exists_congr fun l => and_congr List.mem_mergeSort (meterOf l)

/-- Clearing a registry leaves the meters of the others. -/
lemma meters_clear_of_ne (h : Hub α) {r r' : RegistryRef} (ne : r' ≠ r) :
    (h.clear r).meters r' = h.meters r' := by
  have kept : ((h.clear r).registry r').listings = (h.registry r').listings :=
    (h.listings_clear r r').trans (if_neg ne)
  rw [meters, meters, kept]
  rfl

/-- The identities that a registry lists are those that have a state. -/
lemma Sound.mem_ids_iff (sound : h.Sound F R) {r : RegistryRef} {id : MeterId} :
    id ∈ (h.listings r).map Listing.id ↔ (h.stateOf r id).isSome := by
  constructor
  · intro mem
    obtain ⟨l, listed, rfl⟩ := List.mem_map.1 mem
    rw [sound.stateOf_of_listed listed]
    obtain ⟨f, -, -, -, kind⟩ := sound.stem listed
    obtain ⟨i, instrument, -⟩ := Option.map_eq_some_iff.1 kind
    rw [instrument]
    rfl
  · intro there
    obtain ⟨i, state⟩ := Option.isSome_iff_exists.1 there
    obtain ⟨l, listed, rfl, -⟩ := listed_of_stateOf state
    exact List.mem_map_of_mem listed

/-- A change of a listed meter changes its state, and no other. -/
lemma Sound.stateOf_change (sound : h.Sound F R) [Amount α] {r s : RegistryRef} {l : Listing}
    (listed : l ∈ h.listings r) (c : Change α) (id : MeterId) :
    (h.change l.meter c).stateOf s id =
      if s = r ∧ id = l.id then (h.stateOf s id).map (Instrument.apply c) else h.stateOf s id := by
  have registry : (h.change l.meter c).registry s = h.registry s := rfl
  rw [stateOf, stateOf, registry]
  cases found : (h.registry s).find? id with
  | none => simp
  | some l' =>
    obtain ⟨listed', id'⟩ := find?_some found
    rw [Option.bind_some, Option.bind_some, instrument?_change]
    by_cases same : s = r ∧ id = l.id
    · obtain ⟨rfl, rfl⟩ := same
      rw [sound.eq_of_id listed' listed id', if_pos rfl, if_pos ⟨rfl, rfl⟩]
    · have ne : l'.meter ≠ l.meter := by
        intro eq
        obtain ⟨rfl, rfl⟩ := sound.listed_once listed' listed eq
        exact same ⟨rfl, id'.symm⟩
      rw [if_neg ne, if_neg same]

/-- What is newly registered has the state that it comes with. -/
lemma Sound.stateOf_new (sound : h.Sound F R) {r : RegistryRef} (store : (h.registry r).isStore)
    {id : MeterId} (missing : (h.registry r).find? id = none) (description : String)
    (i : Instrument α) (s : RegistryRef) (id' : MeterId) :
    ((h.push i).enlist r ⟨id, description, h.next⟩).stateOf s id' =
      if s = r ∧ id' = id then some i else h.stateOf s id' := by
  have find (g : Hub α) : (g.registry s).find? id' = (g.listings s).find? (·.id = id') := rfl
  have old {l} (found : (h.registry s).find? id' = some l) :
      (h.push i).instrument? l.meter = h.instrument? l.meter := by
    rw [instrument?_push, if_neg (sound.listed_ne_next (find?_some found).1)]
  have last : (h.push i).instrument? h.next = some i := by
    rw [instrument?_push, if_pos rfl]
  rw [stateOf, find, listings_enlist]
  -- in its own registry the new listing comes last, so that it is found only if nothing else is
  by_cases same : s = r
  · subst same
    rw [if_pos ⟨rfl, store⟩, listings_push, List.find?_append, ← find, stateOf]
    cases found : (h.registry s).find? id' with
    | some l =>
      have ne : id' ≠ id := fun eq => find?_none missing (find?_some found).1 (eq ▸ (find?_some found).2)
      rw [Option.some_or, Option.bind_some, Option.bind_some, instrument?_enlist, old found,
        if_neg fun both => ne both.2]
    | none =>
      rw [Option.none_or, Option.bind_none]
      by_cases eq : id' = id
      · rw [if_pos ⟨rfl, eq⟩, List.find?_singleton, if_pos (by simp [eq]), Option.bind_some,
          instrument?_enlist, last]
      · rw [if_neg fun both => eq both.2, List.find?_singleton, if_neg (by simp [Ne.symm eq]),
          Option.bind_none]
  · rw [if_neg fun both => same both.1, if_neg fun both => same both.1, listings_push, ← find,
      stateOf]
    cases found : (h.registry s).find? id' with
    | some l => rw [Option.bind_some, Option.bind_some, instrument?_enlist, old found]
    | none => rw [Option.bind_none, Option.bind_none]

variable [Amount α]

/-- A family that asks for an instrument makes sure that the meter exists. -/
lemma Sound.stateOf_got (sound : h.Sound F R) (concordant : Family.Concordant F) {f : Family}
    (hf : f ∈ F) (live : f.scope.registry ∈ R) {vs : List String} {m : MeterRef} {h' : Hub α}
    (got : h.Got f vs m h') (r : RegistryRef) (id : MeterId) :
    h'.stateOf r id = if r = f.scope.registry ∧ id = f.id vs
      then some ((h.stateOf r id).getD (.fresh f.template.kind)) else h.stateOf r id := by
  have present {l} (listed : l ∈ h.listings f.scope.registry) (eq : l.id = f.id vs) :
      h.stateOf r id = if r = f.scope.registry ∧ id = f.id vs
        then some ((h.stateOf r id).getD (.fresh f.template.kind)) else h.stateOf r id := by
    split
    case isTrue same =>
      obtain ⟨rfl, rfl⟩ := same
      have kind := sound.kind_of_listed concordant hf listed (by rw [eq]; rfl)
      obtain ⟨i, instrument, -⟩ := Option.map_eq_some_iff.1 kind
      rw [← eq, sound.stateOf_of_listed listed, instrument, Option.getD_some]
    case isFalse => rfl
  -- a clash would need two families of one name and different kinds
  cases got with
  | kept kept =>
    obtain ⟨l, listed, eq, -⟩ := (sound.shared_of_kept concordant hf live kept).listed
    exact present listed eq
  | shared _ found => exact present (find?_some found).1 (find?_some found).2
  | @clash l _ found kind =>
    obtain ⟨listed, eq⟩ := find?_some found
    rw [sound.kind_of_listed concordant hf listed (by rw [eq]; rfl), Option.getD_some] at kind
    exact absurd rfl kind
  | new _ missing =>
    have state := sound.stateOf_new (sound.store live) missing f.template.description
      (.fresh f.template.kind) r id
    rw [stateOf_keep, state]
    split
    case isTrue same =>
      obtain ⟨rfl, rfl⟩ := same
      rw [stateOf_of_missing missing, Option.getD_none]
    case isFalse => rfl

/-- A touch changes the meter of its identity, which exists from then on, and no other. -/
theorem Sound.stateOf_touch (sound : h.Sound F R) (apart : Family.Apart F)
    (concordant : Family.Concordant F) {t : Touch α} (ht : t.family ∈ F) (live : t.registry ∈ R)
    (r : RegistryRef) (id : MeterId) :
    (h.touch t).stateOf r id = if r = t.registry ∧ id = t.id
      then some (((h.stateOf r id).getD (.fresh t.kind)).apply t.change) else h.stateOf r id := by
  have got := h.got_get t.family t.values
  have sound' := sound.got apart ht got
  obtain ⟨l, listed, eq, meter⟩ :=
    (sound'.shared_of_kept concordant ht live got.kept?_self).listed
  have touch : h.touch t = (h.get t.family t.values).2.change l.meter t.change := by
    rw [meter]
    rfl
  have state : (h.get t.family t.values).2.stateOf r id = if r = t.registry ∧ id = t.id
      then some ((h.stateOf r id).getD (.fresh t.kind)) else h.stateOf r id :=
    sound.stateOf_got concordant ht live got r id
  have change : (h.touch t).stateOf r id = if r = t.registry ∧ id = t.id
      then ((h.get t.family t.values).2.stateOf r id).map (Instrument.apply t.change)
      else (h.get t.family t.values).2.stateOf r id := by
    rw [touch, sound'.stateOf_change listed, eq]
    rfl
  rw [change, state]
  by_cases same : r = t.registry ∧ id = t.id
  · rw [if_pos same, if_pos same, if_pos same, Option.map_some]
  · rw [if_neg same, if_neg same, if_neg same]

/-- Touches change each meter by those that are of its identity, in order. -/
theorem Sound.stateOf_perform (sound : h.Sound F R) (apart : Family.Apart F)
    (concordant : Family.Concordant F) {ts : List (Touch α)}
    (hts : ∀ t ∈ ts, t.family ∈ F ∧ t.registry ∈ R) (r : RegistryRef) (id : MeterId) :
    (h.perform ts).stateOf r id =
      (ts.filter fun t => r = t.registry ∧ id = t.id).foldl Touch.after (h.stateOf r id) := by
  induction ts generalizing h with
  | nil => rfl
  | cons t ts ih =>
    obtain ⟨ht, live⟩ := hts t (List.mem_cons_self ..)
    have rest := ih (sound.touch apart ht) fun t' mem => hts t' (List.mem_cons_of_mem t mem)
    refine rest.trans ?_
    rw [sound.stateOf_touch apart concordant ht live, List.filter_cons]
    by_cases same : r = t.registry ∧ id = t.id
    · rw [if_pos same, if_pos (decide_eq_true same)]
      rfl
    · rw [if_neg same, if_neg fun is => same (of_decide_eq_true is)]

/-! ## What stays as it is -/

/-- A touch leaves other registries and their meters as they are. -/
lemma Sound.frame_touch (sound : h.Sound F R) (apart : Family.Apart F) {t : Touch α}
    (ht : t.family ∈ F) {r : RegistryRef} (other : r ≠ t.registry) :
    (h.touch t).listings r = h.listings r ∧
      ∀ l ∈ h.listings r, (h.touch t).instrument? l.meter = h.instrument? l.meter := by
  have got := h.got_get t.family t.values
  have listings := got.listings_eq other
  refine ⟨listings, fun l listed => ?_⟩
  have ne : l.meter ≠ (h.get t.family t.values).1 := fun eq =>
    other ((sound.got apart ht got).kept_home ht got.kept?_self (listings ▸ listed) eq)
  have change : (h.touch t).instrument? l.meter =
      (h.get t.family t.values).2.instrument? l.meter := by
    unfold Hub.touch
    rw [instrument?_change, if_neg ne]
  rw [change, got.instrument?_eq (sound.listed_ne_next listed)]

/-- What a touch changes is listed in its registry. -/
lemma Sound.listed_of_touch (sound : h.Sound F R) (apart : Family.Apart F)
    (concordant : Family.Concordant F) {t : Touch α} (ht : t.family ∈ F) (live : t.registry ∈ R)
    {m : MeterRef} (ne : (h.touch t).instrument? m ≠ h.instrument? m) :
    ∃ l ∈ (h.touch t).listings t.registry, l.meter = m := by
  have got := h.got_get t.family t.values
  obtain ⟨l, listed, -, meter⟩ :=
    ((sound.got apart ht got).shared_of_kept concordant ht live got.kept?_self).listed
  refine ⟨l, listed, meter.trans ?_⟩
  by_contra other
  unfold Hub.touch at ne
  rw [instrument?_change, if_neg (Ne.symm other)] at ne
  exact other (got.eq_of_instrument?_ne ne).symm

/-- A touch adds listings behind those that are there. -/
lemma listings_isPrefix_touch (h : Hub α) (t : Touch α) (r : RegistryRef) :
    h.listings r <+: (h.touch t).listings r :=
  (h.got_get t.family t.values).listings_isPrefix r

/-- Touches add listings behind those that are there. -/
lemma listings_isPrefix_perform (h : Hub α) (ts : List (Touch α)) (r : RegistryRef) :
    h.listings r <+: (h.perform ts).listings r := by
  induction ts generalizing h with
  | nil => exact List.prefix_rfl
  | cons t ts ih => exact (h.listings_isPrefix_touch t r).trans (ih _)

/-- What is listed after touches was listed before, or has the identity of one of them. -/
lemma mem_listings_perform {ts : List (Touch α)} {r : RegistryRef} {l : Listing}
    (listed : l ∈ (h.perform ts).listings r) :
    l ∈ h.listings r ∨ ∃ t ∈ ts, t.registry = r ∧ t.id = l.id := by
  induction ts generalizing h with
  | nil => exact .inl listed
  | cons t ts ih =>
    rcases ih listed with old | ⟨t', mem, touched⟩
    · exact ((h.got_get t.family t.values).mem_listings old).imp_right
        fun touched => ⟨t, List.mem_cons_self .., touched⟩
    · exact .inr ⟨t', List.mem_cons_of_mem t mem, touched⟩

/-- Touches leave the states of all other meters as they are. -/
lemma Sound.stateOf_perform_other (sound : h.Sound F R) (apart : Family.Apart F)
    (concordant : Family.Concordant F) {ts : List (Touch α)}
    (hts : ∀ t ∈ ts, t.family ∈ F ∧ t.registry ∈ R) {r : RegistryRef} {id : MeterId}
    (other : ∀ t ∈ ts, r = t.registry → id ≠ t.id) :
    (h.perform ts).stateOf r id = h.stateOf r id := by
  have none : ts.filter (fun t => r = t.registry ∧ id = t.id) = [] :=
    List.filter_eq_nil_iff.2 fun t mem => by simpa using other t mem
  rw [sound.stateOf_perform apart concordant hts, none]
  rfl

/-- Touches of one registry leave other registries and their meters as they are. -/
theorem Sound.frame_perform (sound : h.Sound F R) (apart : Family.Apart F) {r s : RegistryRef}
    {ts : List (Touch α)} (hts : ∀ t ∈ ts, t.family ∈ F ∧ t.registry = r) (other : s ≠ r) :
    (h.perform ts).listings s = h.listings s ∧
      ∀ l ∈ h.listings s, (h.perform ts).instrument? l.meter = h.instrument? l.meter := by
  induction ts generalizing h with
  | nil => exact ⟨rfl, fun _ _ => rfl⟩
  | cons t ts ih =>
    obtain ⟨ht, registry⟩ := hts t (List.mem_cons_self ..)
    obtain ⟨listings, instruments⟩ := sound.frame_touch apart ht (registry ▸ other)
    obtain ⟨listings', instruments'⟩ :=
      ih (sound.touch apart ht) fun t' mem => hts t' (List.mem_cons_of_mem t mem)
    refine ⟨listings'.trans listings, fun l listed => ?_⟩
    exact (instruments' l (listings ▸ listed)).trans (instruments l listed)

/-- Touches of one registry leave the meters of other registries as they are. -/
lemma Sound.meters_perform_other (sound : h.Sound F R) (apart : Family.Apart F)
    {r s : RegistryRef} {ts : List (Touch α)} (hts : ∀ t ∈ ts, t.family ∈ F ∧ t.registry = r)
    (other : s ≠ r) : (h.perform ts).meters s = h.meters s := by
  obtain ⟨listed, instruments⟩ := sound.frame_perform apart hts other
  have same : ((h.perform ts).registry s).listings = (h.registry s).listings := listed
  rw [Hub.meters, Hub.meters, same]
  refine List.filterMap_congr fun l mem => ?_
  have instrument : (h.perform ts).instruments[l.meter.index]? = h.instruments[l.meter.index]? :=
    instruments l (List.mem_mergeSort.1 mem)
  rw [meterOf, meterOf, instrument]

/-- What touches of one registry change is listed there. -/
theorem Sound.listed_of_perform (sound : h.Sound F R) (apart : Family.Apart F)
    (concordant : Family.Concordant F) {r : RegistryRef} (live : r ∈ R) {ts : List (Touch α)}
    (hts : ∀ t ∈ ts, t.family ∈ F ∧ t.registry = r) {m : MeterRef}
    (ne : (h.perform ts).instrument? m ≠ h.instrument? m) :
    ∃ l ∈ (h.perform ts).listings r, l.meter = m := by
  induction ts generalizing h with
  | nil => exact absurd rfl ne
  | cons t ts ih =>
    obtain ⟨ht, registry⟩ := hts t (List.mem_cons_self ..)
    by_cases same : (h.touch t).instrument? m = h.instrument? m
    · rw [← same] at ne
      exact ih (sound.touch apart ht) (fun t' mem => hts t' (List.mem_cons_of_mem t mem)) ne
    · obtain ⟨l, listed, meter⟩ :=
        sound.listed_of_touch apart concordant ht (registry ▸ live) same
      rw [registry] at listed
      exact ⟨l, (listings_isPrefix_perform _ ts r).subset listed, meter⟩

end Hub

end Metering
