import Metering.Influx.LineProtocol
import Metering.Proofs.Exposition.Grouping
import Metering.Proofs.Hub.Listing
import Metering.Proofs.Hub.State

/-!
# Stock

What the registries of a hub hold after any registrations and clearings (`Hub.Stocked`), and how it is
listed: every identity once with its meter, in the order of the identities (`Hub.Lists`). The main
statement is `meters_of_stock`: the list depends only on what is held, not on the order in which it
came or in which it is gone through; what is not in the list but in the descriptions shows in nothing
but the help of the exposition.
-/

namespace Metering

/-- What the registries hold under each identity. -/
def Stock := RegistryRef → MeterId → Option Listing

namespace Stock

def empty : Stock := fun _ _ => none

/-- A meter is registered. What is held under its identity already keeps its place. -/
def put (s : Stock) (r : RegistryRef) (l : Listing) : Stock := fun r' id =>
  if r' = r ∧ id = l.id then some ((s r' id).getD l) else s r' id

/-- A registry forgets what it holds. -/
def clear (s : Stock) (r : RegistryRef) : Stock := fun r' id =>
  if r' = r then none else s r' id

/-- What is held already is not put again. -/
lemma put_of_held {s : Stock} {r : RegistryRef} {l l' : Listing} (held : s r l.id = some l') :
    s.put r l = s := by
  funext r' id
  rw [put]
  split
  case isTrue same =>
    rw [same.1, same.2, held]
    rfl
  case isFalse => rfl

end Stock

/-- A meter without its description. -/
def Meter.bare {α : Type} (m : Meter α) : Meter α := { m with description := "" }

namespace Hub

variable {α : Type} [Amount α]

/-- What is held in a hub that registrations and clearings have led to. -/
inductive Stocked : Hub α → Stock → Prop where
  | empty : Stocked .empty .empty
  | addRegistry {h s} (stocked : Stocked h s) {new : Registry} (vacant : new.listings = []) :
      Stocked (h.addRegistry new).2 s
  /-- A meter with a new instrument is registered. -/
  | register {h s r id description i m h'} (stocked : Stocked h s)
      (store : (h.registry r).isStore)
      (registered : h.register r id description i = .ok (m, h')) :
      Stocked h' (s.put r ⟨id, description, m⟩)
  /-- A meter whose instrument is there already is registered under a new identity. -/
  | share {h s r} {l : Listing} (stocked : Stocked h s) (store : (h.registry r).isStore)
      (missing : (h.registry r).find? l.id = none) (there : (h.instrument? l.meter).isSome) :
      Stocked (h.enlist r l) (s.put r l)
  | clear {h s} (stocked : Stocked h s) (r : RegistryRef) : Stocked (h.clear r) (s.clear r)
  | change {h s} (stocked : Stocked h s) (m : MeterRef) (c : Change α) : Stocked (h.change m c) s
  /-- A new instrument is not registered. -/
  | push {h s} (stocked : Stocked h s) (i : Instrument α) : Stocked (h.push i) s
  /-- Families come and keep instruments. -/
  | serve {h s} (stocked : Stocked h s) (scopes : Nat) (slots : List (Slot × MeterRef)) :
      Stocked { h with scopes, slots } s

variable {h h' : Hub α} {s s' : Stock} {r r' : RegistryRef}

omit [Amount α] in
/-- The meter that is held under an identity, with its present state. -/
def held (h : Hub α) (s : Stock) (r : RegistryRef) (id : MeterId) : Option (Meter α) :=
  (s r id).bind h.meterOf

omit [Amount α] in
/-- A list of meters that tells what a registry holds. -/
structure Lists (h : Hub α) (s : Stock) (r : RegistryRef) (ms : List (Meter α)) : Prop where
  increasing : ms.Pairwise fun m m' => m.id.Before m'.id
  /-- What is held is listed once, with its present state. -/
  once {id : MeterId} {l : Listing} : s r id = some l → ∃ i, h.instrument? l.meter = some i ∧
    ms.filter (fun m => m.id = id) = [⟨id, l.description, i⟩]
  /-- Nothing else is listed. -/
  only {m : Meter α} : m ∈ ms → (s r m.id).isSome

/-! ## The listings of a stocked hub -/

omit [Amount α] in
/-- The listings are what is held, each under its own identity, with instruments that exist. -/
structure Holds (h : Hub α) (s : Stock) : Prop where
  nodup (r : RegistryRef) : ((h.listings r).map Listing.id).Nodup
  held_iff {r : RegistryRef} {id : MeterId} {l : Listing} :
    s r id = some l ↔ l ∈ h.listings r ∧ l.id = id
  there {r : RegistryRef} {l : Listing} : l ∈ h.listings r → (h.instrument? l.meter).isSome

omit [Amount α] in
/-- What is registered is listed already, or it is new. -/
lemma register_eq_ok {id : MeterId} {description : String} {i : Instrument α} {m : MeterRef}
    (registered : h.register r id description i = .ok (m, h')) :
    (∃ l, (h.registry r).find? id = some l ∧ h' = h) ∨
      (h.registry r).find? id = none ∧ m = h.next ∧
        h' = (h.push i).enlist r ⟨id, description, h.next⟩ := by
  unfold register at registered
  cases found : (h.registry r).find? id with
  | none =>
    rw [found] at registered
    cases registered
    exact .inr ⟨rfl, rfl, rfl⟩
  | some l =>
    rw [found] at registered
    dsimp only at registered
    split at registered
    · cases registered
      exact .inl ⟨l, rfl, rfl⟩
    · cases registered

namespace Holds

omit [Amount α]

/-- The empty hub holds an empty stock. -/
lemma empty : (Hub.empty : Hub α).Holds .empty where
  nodup _ := List.nodup_nil
  held_iff := ⟨fun held => (nomatch held), fun listed => (nomatch listed.1)⟩
  there listed := nomatch listed

/-- Nothing is listed anew, and no instrument is lost. -/
lemma of_listings_eq (holds : h.Holds s) (listings : ∀ r, h'.listings r = h.listings r)
    (there : ∀ m, (h.instrument? m).isSome → (h'.instrument? m).isSome) : h'.Holds s where
  nodup r := by
    rw [listings]
    exact holds.nodup r
  held_iff := by
    intro r id l
    rw [listings]
    exact holds.held_iff
  there listed := there _ (holds.there (listings _ ▸ listed))

/-- What is not listed is not in stock. -/
lemma eq_none (holds : h.Holds s) {id : MeterId} (missing : (h.registry r).find? id = none) :
    s r id = none := by
  cases held : s r id with
  | none => rfl
  | some l =>
    obtain ⟨listed, same⟩ := holds.held_iff.1 held
    exact absurd same (find?_none missing listed)

/-- A new instrument changes nothing in stock. -/
lemma push (holds : h.Holds s) (i : Instrument α) : (h.push i).Holds s := by
  refine holds.of_listings_eq (fun _ => rfl) fun m there => ?_
  rw [instrument?_push]
  split
  · rfl
  · exact there

/-- What is listed anew is put in stock. -/
lemma enlist (holds : h.Holds s) {l : Listing} (store : (h.registry r).isStore)
    (missing : (h.registry r).find? l.id = none) (there : (h.instrument? l.meter).isSome) :
    (h.enlist r l).Holds (s.put r l) := by
  have listings (r' : RegistryRef) : (h.enlist r l).listings r' =
      if r' = r then h.listings r' ++ [l] else h.listings r' := by
    rw [listings_enlist, store]
    simp
  have absent {l' : Listing} (listed : l' ∈ h.listings r) : l'.id ≠ l.id := find?_none missing listed
  constructor
  case nodup =>
    intro r'
    rw [listings]
    split
    case isTrue same =>
      subst same
      rw [List.map_append]
      refine (holds.nodup r').append (List.nodup_singleton _) fun id old new => ?_
      obtain ⟨l', listed, rfl⟩ := List.mem_map.1 old
      exact absent listed (List.mem_singleton.1 new)
    case isFalse => exact holds.nodup r'
  case held_iff =>
    intro r' id l'
    rw [listings, Stock.put]
    -- only the stock of this registry under this identity changes
    by_cases same : r' = r
    · subst same
      rw [if_pos rfl, List.mem_append, List.mem_singleton]
      by_cases here : id = l.id
      · rw [if_pos ⟨rfl, here⟩, here, holds.eq_none missing, Option.getD_none, Option.some_inj]
        constructor
        · rintro rfl
          exact ⟨.inr rfl, rfl⟩
        · rintro ⟨old | rfl, id⟩
          · exact absurd id (absent old)
          · rfl
      · rw [if_neg fun both => here both.2, holds.held_iff]
        constructor
        · rintro ⟨old, id⟩
          exact ⟨.inl old, id⟩
        · rintro ⟨old | rfl, id⟩
          · exact ⟨old, id⟩
          · exact absurd id.symm here
    · rw [if_neg fun both => same both.1, if_neg same]
      exact holds.held_iff
  case there =>
    intro r' l' listed
    rw [listings] at listed
    rw [instrument?_enlist]
    split at listed
    · rcases List.mem_append.1 listed with old | new
      · exact holds.there old
      · rw [List.mem_singleton.1 new]
        exact there
    · exact holds.there listed

/-- A meter that is registered is put in stock. -/
lemma register (holds : h.Holds s) {id : MeterId} {description : String} {i : Instrument α}
    {m : MeterRef} (store : (h.registry r).isStore)
    (registered : h.register r id description i = .ok (m, h')) :
    h'.Holds (s.put r ⟨id, description, m⟩) := by
  obtain ⟨l, found, rfl⟩ | ⟨missing, rfl, rfl⟩ := register_eq_ok registered
  · have listed : s r id = some l := holds.held_iff.2 (find?_some found)
    rw [Stock.put_of_held listed]
    exact holds
  · refine (holds.push i).enlist store missing ?_
    rw [instrument?_push, if_pos rfl]
    rfl

/-- Clearing a registry clears its stock. -/
lemma clear (holds : h.Holds s) (r : RegistryRef) : (h.clear r).Holds (s.clear r) where
  nodup r' := by
    rw [listings_clear]
    split
    · exact List.nodup_nil
    · exact holds.nodup r'
  held_iff := by
    intro r' id l
    rw [listings_clear, Stock.clear]
    split
    · simp
    · exact holds.held_iff
  there := by
    intro r' l listed
    rw [listings_clear] at listed
    split at listed
    · cases listed
    · exact holds.there listed

end Holds

/-- The listings of a stocked hub are what it holds. -/
theorem Stocked.holds (stocked : h.Stocked s) : h.Holds s := by
  induction stocked with
  | empty => exact .empty
  | addRegistry _ vacant ih =>
    exact ih.of_listings_eq (listings_addRegistry _ _ vacant) fun _ there => there
  | register _ store registered ih => exact ih.register store registered
  | share _ store missing there ih => exact ih.enlist store missing there
  | clear _ r ih => exact ih.clear r
  | change _ m c ih =>
    refine ih.of_listings_eq (fun _ => rfl) fun n there => ?_
    rw [instrument?_change]
    split
    · rwa [Option.isSome_map]
    · exact there
  | push _ i ih => exact ih.push i
  | serve _ _ _ ih => exact ih.of_listings_eq (fun _ => rfl) fun _ there => there

/-! ## Lists of meters -/

section Meters

omit [Amount α]

variable {ms ms' : List (Meter α)}

/-- The order in which meters were listed does not matter for what is shown. -/
lemma meters_of_perm (holds : h.Holds s) {ls : List Listing} (perm : ls.Perm (h.listings r)) :
    (sorted ls).filterMap h.meterOf = h.meters r := by
  rw [sorted_eq_of_perm perm (holds.nodup r)]
  rfl

/-- A meter shows identity, description and instrument of its listing. -/
lemma meterOf_eq_some {l : Listing} {m : Meter α} (shown : h.meterOf l = some m) :
    m.id = l.id ∧ m.description = l.description ∧ h.instrument? l.meter = some m.instrument := by
  obtain ⟨i, instrument, rfl⟩ := Option.map_eq_some_iff.1 shown
  exact ⟨rfl, rfl, instrument⟩

/-- The meters of a registry are in the order of their identities. -/
lemma Holds.increasing (holds : h.Holds s) (r : RegistryRef) :
    (h.meters r).Pairwise fun m m' => m.id.Before m'.id := by
  refine List.pairwise_filterMap.2 ((increasing_sorted (holds.nodup r)).imp ?_)
  intro l l' before m shown m' shown'
  rwa [(meterOf_eq_some shown).1, (meterOf_eq_some shown').1]

/-- The meters of a registry are those that are held. -/
lemma Holds.mem_meters_iff (holds : h.Holds s) {m : Meter α} :
    m ∈ h.meters r ↔ h.held s r m.id = some m := by
  rw [meters, List.mem_filterMap, held, Option.bind_eq_some_iff]
  refine exists_congr fun l => ?_
  rw [holds.held_iff]
  constructor
  · rintro ⟨listed, shown⟩
    exact ⟨⟨List.mem_mergeSort.1 listed, (meterOf_eq_some shown).1.symm⟩, shown⟩
  · rintro ⟨⟨listed, -⟩, shown⟩
    exact ⟨List.mem_mergeSort.2 listed, shown⟩

/-- Meters in increasing order have different identities. -/
lemma nodup_of_increasing (increasing : ms.Pairwise fun m m' => m.id.Before m'.id) :
    (ms.map Meter.id).Nodup :=
  List.pairwise_map.2 (increasing.imp MeterId.Before.ne)

/-- Meters in the order of their identities are listed in one way only. -/
lemma eq_of_increasing (increasing : ms.Pairwise fun m m' => m.id.Before m'.id)
    (increasing' : ms'.Pairwise fun m m' => m.id.Before m'.id) (same : ∀ m, m ∈ ms ↔ m ∈ ms') :
    ms = ms' := by
  have perm : ms.Perm ms' := (List.perm_ext_iff_of_nodup (nodup_of_increasing increasing).of_map
    (nodup_of_increasing increasing').of_map).2 same
  exact perm.eq_of_pairwise (fun _ _ _ _ before behind => absurd behind before.asymm) increasing
    increasing'

/-- The meters of a registry tell what it holds. -/
lemma Holds.lists (holds : h.Holds s) (r : RegistryRef) : h.Lists s r (h.meters r) where
  increasing := holds.increasing r
  once := by
    intro id l held
    obtain ⟨listed, rfl⟩ := holds.held_iff.1 held
    obtain ⟨i, instrument⟩ := Option.isSome_iff_exists.1 (holds.there listed)
    refine ⟨i, instrument, ?_⟩
    have shown : h.meterOf l = some ⟨l.id, l.description, i⟩ :=
      Option.map_eq_some_iff.2 ⟨i, instrument, rfl⟩
    have mem : ⟨l.id, l.description, i⟩ ∈ h.meters r :=
      List.mem_filterMap.2 ⟨l, List.mem_mergeSort.2 listed, shown⟩
    -- in a strict order an identity stands once
    have nodup := nodup_of_increasing (holds.increasing r)
    refine List.perm_singleton.1 ((List.perm_ext_iff_of_nodup (nodup.of_map.filter _)
      (List.nodup_singleton _)).2 fun m => ?_)
    rw [List.mem_filter, decide_eq_true_eq, List.mem_singleton]
    constructor
    · rintro ⟨other, same⟩
      exact List.inj_on_of_nodup_map nodup other mem same
    · rintro rfl
      exact ⟨mem, rfl⟩
  only := by
    intro m mem
    obtain ⟨l, held, -⟩ := Option.bind_eq_some_iff.1 (holds.mem_meters_iff.1 mem)
    rw [held]
    rfl

/-- Hubs that hold the same show the same meters. -/
lemma Holds.meters_eq (holds : h.Holds s) (holds' : h'.Holds s')
    (same : ∀ id, h.held s r id = h'.held s' r' id) : h.meters r = h'.meters r' := by
  refine eq_of_increasing (holds.increasing r) (holds'.increasing r') fun m => ?_
  rw [holds.mem_meters_iff, holds'.mem_meters_iff, same]

/-- Hubs that hold the same instruments show the same meters up to descriptions. -/
lemma Holds.map_bare_meters_eq (holds : h.Holds s) (holds' : h'.Holds s')
    (same : ∀ id, (h.held s r id).map Meter.instrument = (h'.held s' r' id).map Meter.instrument) :
    (h.meters r).map Meter.bare = (h'.meters r').map Meter.bare := by
  have increasing (ms : List (Meter α)) (inc : ms.Pairwise fun m m' => m.id.Before m'.id) :
      (ms.map Meter.bare).Pairwise fun m m' => m.id.Before m'.id := List.pairwise_map.2 inc
  -- one direction, which serves for both
  have mem {h h' : Hub α} {s s' : Stock} {r r' : RegistryRef} (holds : h.Holds s)
      (holds' : h'.Holds s')
      (same : ∀ id, (h.held s r id).map Meter.instrument = (h'.held s' r' id).map Meter.instrument)
      {m : Meter α} (listed : m ∈ (h.meters r).map Meter.bare) :
      m ∈ (h'.meters r').map Meter.bare := by
    obtain ⟨m, shown, rfl⟩ := List.mem_map.1 listed
    have there := same m.id
    rw [holds.mem_meters_iff.1 shown, Option.map_some] at there
    obtain ⟨m', held, instrument⟩ := Option.map_eq_some_iff.1 there.symm
    obtain ⟨l, stock, shown'⟩ := Option.bind_eq_some_iff.1 held
    have id : m'.id = m.id := (meterOf_eq_some shown').1.trans (holds'.held_iff.1 stock).2
    have listed' : m' ∈ h'.meters r' := holds'.mem_meters_iff.2 (id ▸ held)
    refine List.mem_map.2 ⟨m', listed', ?_⟩
    rw [Meter.bare, Meter.bare, id, instrument]
  refine eq_of_increasing (increasing _ (holds.increasing r)) (increasing _ (holds'.increasing r'))
    fun m => ⟨mem holds holds' same, mem holds' holds fun id => (same id).symm⟩

end Meters

/-- Lines do not tell descriptions. -/
lemma lines_map_bare (timestamp : Int) (ms : List (Meter α)) :
    Influx.lines timestamp (ms.map Meter.bare) = Influx.lines timestamp ms := by
  rw [Influx.lines, List.filterMap_map]
  rfl

/-! ## Main statement -/

/-- The list of a registry tells what it holds, in whatever order that is gone through. Registries that
hold the same under each identity give the same list; if only the descriptions differ, the identities,
their instruments, the lines and all but the help of the families are the same. -/
theorem meters_of_stock (stocked : h.Stocked s) (stocked' : h'.Stocked s') (r r' : RegistryRef) :
    h.Lists s r (h.meters r) ∧
    (∀ ls, ls.Perm (h.listings r) → (sorted ls).filterMap h.meterOf = h.meters r) ∧
    ((∀ id, (h.held s r id).map Meter.instrument = (h'.held s' r' id).map Meter.instrument) →
      (h.meters r).map (fun m => (m.id, m.instrument)) =
        (h'.meters r').map (fun m => (m.id, m.instrument)) ∧
      (∀ timestamp, Influx.lines timestamp (h.meters r) = Influx.lines timestamp (h'.meters r')) ∧
      (Exposition.families (h.meters r)).map Exposition.bare =
        (Exposition.families (h'.meters r')).map Exposition.bare) ∧
    ((∀ id, h.held s r id = h'.held s' r' id) → h.meters r = h'.meters r' ∧
      Exposition.families (h.meters r) = Exposition.families (h'.meters r')) := by
  have holds := stocked.holds
  have holds' := stocked'.holds
  refine ⟨holds.lists r, fun ls perm => meters_of_perm holds perm, fun same => ?_, fun same => ?_⟩
  · have bare := holds.map_bare_meters_eq holds' same
    refine ⟨?_, fun timestamp => ?_, ?_⟩
    · have pairs := congrArg (List.map fun m : Meter α => (m.id, m.instrument)) bare
      rwa [List.map_map, List.map_map] at pairs
    · rw [← lines_map_bare, bare, lines_map_bare]
    · rw [Exposition.map_bare_families, Exposition.map_bare_families]
      exact congrArg Exposition.families bare
  · have list := holds.meters_eq holds' same
    exact ⟨list, congrArg Exposition.families list⟩

/-- Two meters that are registered in either order, one of them again with another description. -/
theorem meters_of_two_orders :
    let a : MeterId := ⟨"m", [⟨"k", "1"⟩]⟩
    let b : MeterId := ⟨"m", [⟨"k", "1"⟩, ⟨"l", "2"⟩]⟩
    let h : Hub Float :=
      ⟨#[.gauge 1, .counter 2], #[.store [⟨b, "x", ⟨0⟩⟩, ⟨a, "y", ⟨1⟩⟩]], 0, []⟩
    let h' : Hub Float :=
      ⟨#[.counter 2, .gauge 1], #[.store [⟨a, "y", ⟨0⟩⟩, ⟨b, "x", ⟨1⟩⟩]], 0, []⟩
    ∃ s s', h.Stocked s ∧ h'.Stocked s' ∧ (∀ id, h.held s store id = h'.held s' store id) ∧
      (h.meters store).Pairwise (fun m m' => m.id.Before m'.id) ∧
      h.meters store = h'.meters store := by
  intro a b h h'
  have new : (ofStore : Hub Float).Stocked .empty := .addRegistry .empty rfl
  have stocked : h.Stocked ((Stock.empty.put store ⟨b, "x", ⟨0⟩⟩).put store ⟨a, "y", ⟨1⟩⟩) := by
    have first : (ofStore : Hub Float).register store b "x" (.gauge 1) =
        .ok (⟨0⟩, ⟨#[.gauge 1], #[.store [⟨b, "x", ⟨0⟩⟩]], 0, []⟩) := rfl
    have second : Hub.register ⟨#[.gauge 1], #[.store [⟨b, "x", ⟨0⟩⟩]], 0, []⟩ store a "y"
        (.counter (2 : Float)) = .ok (⟨1⟩, h) := rfl
    exact (new.register rfl first).register rfl second
  have stocked' : h'.Stocked (((Stock.empty.put store ⟨a, "y", ⟨0⟩⟩).put store ⟨b, "x", ⟨1⟩⟩).put
      store ⟨a, "z", ⟨0⟩⟩) := by
    have first : (ofStore : Hub Float).register store a "y" (.counter 2) =
        .ok (⟨0⟩, ⟨#[.counter 2], #[.store [⟨a, "y", ⟨0⟩⟩]], 0, []⟩) := rfl
    have second : Hub.register ⟨#[.counter 2], #[.store [⟨a, "y", ⟨0⟩⟩]], 0, []⟩ store b "x"
        (.gauge (1 : Float)) = .ok (⟨1⟩, h') := rfl
    have again : h'.register store a "z" (.counter 0) = .ok (⟨0⟩, h') := rfl
    exact ((new.register rfl first).register rfl second).register rfl again
  have same (id : MeterId) :
      h.held ((Stock.empty.put store ⟨b, "x", ⟨0⟩⟩).put store ⟨a, "y", ⟨1⟩⟩) store id =
        h'.held (((Stock.empty.put store ⟨a, "y", ⟨0⟩⟩).put store ⟨b, "x", ⟨1⟩⟩).put store
          ⟨a, "z", ⟨0⟩⟩) store id := by
    by_cases here : id = a
    · subst here
      rfl
    by_cases there : id = b
    · subst there
      rfl
    · simp only [held, Stock.put, here, there, and_false, if_false]
      rfl
  obtain ⟨lists, -, -, equal⟩ := meters_of_stock stocked stocked' store store
  exact ⟨_, _, stocked, stocked', same, lists.increasing, (equal same).1⟩

/-- One counter that two stores list under the same identity, described in different ways. -/
theorem not_same_families_of_descriptions :
    let h : Hub Float := ⟨#[.counter 0], #[.store [⟨⟨"a", []⟩, "one", ⟨0⟩⟩],
      .store [⟨⟨"a", []⟩, "two", ⟨0⟩⟩]], 0, []⟩
    ∃ s, h.Stocked s ∧
      (∀ id, (s ⟨0⟩ id).map Listing.meter = (s ⟨1⟩ id).map Listing.meter) ∧
      Exposition.families (h.meters ⟨0⟩) ≠ Exposition.families (h.meters ⟨1⟩) := by
  intro h
  have vacant : (Registry.store []).listings = [] := rfl
  have new : (⟨#[], #[.store [], .store []], 0, []⟩ : Hub Float).Stocked .empty :=
    (Stocked.empty.addRegistry vacant).addRegistry vacant
  have one : Hub.register ⟨#[], #[.store [], .store []], 0, []⟩ ⟨0⟩ ⟨"a", []⟩ "one"
      (.counter (0 : Float)) =
        .ok (⟨0⟩, ⟨#[.counter 0], #[.store [⟨⟨"a", []⟩, "one", ⟨0⟩⟩], .store []], 0, []⟩) := rfl
  have both := (new.register rfl one).share (r := ⟨1⟩) (l := ⟨⟨"a", []⟩, "two", ⟨0⟩⟩) rfl rfl rfl
  refine ⟨_, both, fun id => ?_, fun same => ?_⟩
  · simp only [Stock.put, Stock.empty]
    by_cases here : id = ⟨"a", []⟩
    · simp [here]
    · simp [here]
  · have help := congrArg (List.map MetricFamily.help) same
    have apart : (Exposition.families (h.meters ⟨0⟩)).map MetricFamily.help ≠
      (Exposition.families (h.meters ⟨1⟩)).map MetricFamily.help := by decide +kernel
    exact apart help

end Hub

end Metering
