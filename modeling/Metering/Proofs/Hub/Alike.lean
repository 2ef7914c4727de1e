import Mathlib.Data.List.Forall2
import Metering.Proofs.Hub.Access

/-!
# Hubs that are alike

Hubs that differ in nothing but the durations that their timers hold (`Hub.Alike`). Touches of the
same instruments that differ in nothing but durations keep them alike, whatever is done and wherever
(`Hub.Alike.perform`). Such hubs list the same meters, in states that are equal up to durations.
-/

namespace Metering

/-- What is related stays so where it is mapped to what is related. -/
lemma rel_map {A A' B B' : Type} {R : A → A' → Prop} {S : B → B' → Prop} {f : A → B} {f' : A' → B'}
    (maps : ∀ {a a'}, R a a' → S (f a) (f' a')) {a? : Option A} {a'? : Option A'}
    (rel : Option.Rel R a? a'?) : Option.Rel S (a?.map f) (a'?.map f') := by
  cases rel with
  | none => exact .none
  | some related => exact .some (maps related)

variable {α : Type}

/-- Instruments that are equal up to durations: timers hold the same number of them. -/
inductive Instrument.Alike : Instrument α → Instrument α → Prop
  | refl (i : Instrument α) : Alike i i
  | timer {t t' : Timer} (count : t.count = t'.count) : Alike (.timer t) (.timer t')

/-- Changes that are equal up to durations. -/
inductive Change.Alike : Change α → Change α → Prop
  | refl (c : Change α) : Alike c c
  | elapse (nanos nanos' : Nat) : Alike (.elapse nanos) (.elapse nanos')

/-- Touches of one instrument that are equal up to durations. -/
structure Touch.Alike (t t' : Touch α) : Prop where
  family : t.family = t'.family
  values : t.values = t'.values
  change : t.change.Alike t'.change

/-- Listed meters of one identity and description in states that are equal up to durations. -/
structure Meter.Alike (m m' : Meter α) : Prop where
  id : m.id = m'.id
  description : m.description = m'.description
  instrument : m.instrument.Alike m'.instrument

/-- Hubs that are equal up to durations. -/
structure Hub.Alike (h h' : Hub α) : Prop where
  registries : h.registries = h'.registries
  scopes : h.scopes = h'.scopes
  slots : h.slots = h'.slots
  next : h.next = h'.next
  instrument? (m : MeterRef) : Option.Rel Instrument.Alike (h.instrument? m) (h'.instrument? m)

/-- A touch is like itself. -/
lemma Touch.Alike.refl (t : Touch α) : t.Alike t := ⟨rfl, rfl, .refl _⟩

/-- The end of one timing is alike whenever it comes. -/
lemma Sample.finish_alike (sample : Sample) (nanos nanos' : Nat) :
    (sample.finish nanos : Touch α).Alike (sample.finish nanos') :=
  ⟨rfl, rfl, .elapse nanos nanos'⟩

/-- A hub is like itself. -/
lemma Hub.Alike.refl (h : Hub α) : h.Alike h where
  registries := rfl
  scopes := rfl
  slots := rfl
  next := rfl
  instrument? m := by
    cases h.instrument? m with
    | none => exact .none
    | some i => exact .some (.refl i)

namespace Instrument.Alike

variable {i i' : Instrument α}

/-- Instruments that are alike are of one kind. -/
lemma kind (alike : i.Alike i') : i.kind = i'.kind := by
  cases alike with
  | refl => rfl
  | timer => rfl

/-- Changes that are alike keep instruments alike. A timer counts durations whatever they are. -/
lemma apply [Amount α] {c c' : Change α} (alike : i.Alike i') (changes : c.Alike c') :
    (i.apply c).Alike (i'.apply c') := by
  -- only a timer can differ beforehand, and only a duration can make one differ
  cases changes with
  | refl =>
    cases alike with
    | refl => exact .refl _
    | timer count =>
      cases c with
      | elapse nanos => exact .timer (congrArg (· + 1) count)
      | _ => exact .timer count
  | elapse nanos nanos' =>
    cases alike with
    | refl =>
      cases i with
      | timer state => exact .timer rfl
      | _ => exact .refl _
    | timer count => exact .timer (congrArg (· + 1) count)

end Instrument.Alike

namespace Hub

variable {h h' : Hub α}

namespace Alike

/-- Hubs that are alike have the same registries. -/
lemma registry (alike : h.Alike h') (r : RegistryRef) : h.registry r = h'.registry r := by
  rw [Hub.registry, Hub.registry, alike.registries]

/-- Hubs that are alike list the same. -/
lemma listings (alike : h.Alike h') (r : RegistryRef) : h.listings r = h'.listings r :=
  congrArg Registry.listings (alike.registry r)

/-- In hubs that are alike families keep the same. -/
lemma kept? (alike : h.Alike h') (f : Family) (vs : List String) :
    h.kept? f vs = h'.kept? f vs := by
  rw [Hub.kept?, Hub.kept?, alike.slots]

/-- In hubs that are alike meters are of the same kinds. -/
lemma kind? (alike : h.Alike h') (m : MeterRef) : h.kind? m = h'.kind? m := by
  have instruments := alike.instrument? m
  rw [Hub.kind?, Hub.kind?]
  generalize h.instrument? m = i, h'.instrument? m = i' at instruments ⊢
  cases instruments with
  | none => rfl
  | some instruments => exact congrArg some instruments.kind

/-- Registries of hubs that are alike are of one size. -/
lemma size (alike : h.Alike h') (r : RegistryRef) : h.size r = h'.size r :=
  congrArg List.length (alike.listings r)

/-- The meters of hubs that are alike are alike one by one. -/
theorem meters (alike : h.Alike h') (r : RegistryRef) :
    List.Forall₂ Meter.Alike (h.meters r) (h'.meters r) := by
  have states (l : Listing) : Option.Rel Meter.Alike (h.meterOf l) (h'.meterOf l) :=
    rel_map (fun instruments => ⟨rfl, rfl, instruments⟩) (alike.instrument? l.meter)
  rw [Hub.meters, Hub.meters, alike.registry r]
  refine List.rel_filterMap (R := Eq) ?_ (List.forall₂_refl _)
  rintro l _ rfl
  exact states l

/-! ## Updates -/

/-- Hubs stay alike when a family keeps the same meter in both. -/
lemma keep (alike : h.Alike h') (f : Family) (vs : List String) (m : MeterRef) :
    (h.keep f vs m).Alike (h'.keep f vs m) where
  registries := alike.registries
  scopes := alike.scopes
  slots := congrArg ((slot f vs, m) :: ·) alike.slots
  next := alike.next
  instrument? := alike.instrument?

/-- Hubs stay alike when the same meter is listed in both. -/
lemma enlist (alike : h.Alike h') (r : RegistryRef) (l : Listing) :
    (h.enlist r l).Alike (h'.enlist r l) where
  registries := congrArg (Array.modify · r.index (Registry.list · l)) alike.registries
  scopes := alike.scopes
  slots := alike.slots
  next := alike.next
  instrument? := alike.instrument?

/-- Hubs stay alike when the same instrument is made in both. -/
lemma push (alike : h.Alike h') (i : Instrument α) : (h.push i).Alike (h'.push i) where
  registries := alike.registries
  scopes := alike.scopes
  slots := alike.slots
  next := by
    have sizes : h.instruments.size = h'.instruments.size := congrArg MeterRef.index alike.next
    rw [Hub.next, Hub.next, Hub.push, Hub.push, Array.size_push, Array.size_push, sizes]
  instrument? m := by
    rw [instrument?_push, instrument?_push, alike.next]
    split
    · exact .some (.refl i)
    · exact alike.instrument? m

variable [Amount α]

/-- Hubs stay alike under changes that are alike. -/
lemma change (alike : h.Alike h') (m : MeterRef) {c c' : Change α} (changes : c.Alike c') :
    (h.change m c).Alike (h'.change m c') where
  registries := alike.registries
  scopes := alike.scopes
  slots := alike.slots
  next := by
    have sizes : h.instruments.size = h'.instruments.size := congrArg MeterRef.index alike.next
    rw [Hub.next, Hub.next, instruments_size_change, instruments_size_change, sizes]
  instrument? n := by
    have instruments := alike.instrument? n
    rw [instrument?_change, instrument?_change]
    split
    · exact rel_map (fun instruments => instruments.apply changes) instruments
    · exact instruments

/-- In hubs that are alike a family comes by the same instrument, and leaves them alike. -/
lemma got (alike : h.Alike h') {f : Family} {vs : List String} {m m' : MeterRef} {g g' : Hub α}
    (got : h.Got f vs m g) (got' : h'.Got f vs m' g') : m = m' ∧ g.Alike g' := by
  -- the way that is open in one of them is the one that is open in the other
  cases got with
  | kept kept =>
    rw [alike.kept?] at kept
    cases got' with
    | kept kept' => exact ⟨Option.some.inj (kept.symm.trans kept'), alike⟩
    | _ => simp_all
  | shared unkept found kind =>
    rw [alike.kept?] at unkept
    rw [alike.registry] at found
    rw [alike.kind?] at kind
    cases got' with
    | shared unkept' found' kind' =>
      obtain rfl := Option.some.inj (found.symm.trans found')
      exact ⟨rfl, alike.keep f vs _⟩
    | _ => simp_all
  | clash unkept found kind =>
    rw [alike.kept?] at unkept
    rw [alike.registry] at found
    rw [alike.kind?] at kind
    cases got' with
    | clash unkept' found' kind' =>
      refine ⟨alike.next, ?_⟩
      rw [alike.next]
      exact (alike.push _).keep f vs _
    | _ => simp_all
  | new unkept missing =>
    rw [alike.kept?] at unkept
    rw [alike.registry] at missing
    cases got' with
    | new unkept' missing' =>
      refine ⟨alike.next, ?_⟩
      rw [alike.next]
      exact ((alike.push _).enlist _ _).keep f vs _
    | _ => simp_all

/-- Hubs stay alike under touches that are alike. -/
lemma touch (alike : h.Alike h') {t t' : Touch α} (touches : t.Alike t') :
    (h.touch t).Alike (h'.touch t') := by
  obtain ⟨same, got⟩ := alike.got (h.got_get t.family t.values) (h'.got_get t.family t.values)
  have touch' : h'.touch t' =
      (h'.get t.family t.values).2.change (h'.get t.family t.values).1 t'.change := by
    rw [touches.family, touches.values]
    rfl
  rw [touch', ← same]
  exact got.change _ touches.change

/-- Hubs stay alike under touches that are alike one by one. -/
theorem perform (alike : h.Alike h') {ts ts' : List (Touch α)}
    (touches : List.Forall₂ Touch.Alike ts ts') : (h.perform ts).Alike (h'.perform ts') := by
  induction touches generalizing h h' with
  | nil => exact alike
  | cons first rest ih => exact ih (alike.touch first)

end Alike

end Hub

end Metering
