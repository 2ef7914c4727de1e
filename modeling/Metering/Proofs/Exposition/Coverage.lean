import Mathlib.Data.List.Flatten
import Metering.Proofs.Exposition.Grouping

/-!
# Coverage

What the families of a list of meters hold (`Exposition.Covers`): under each name exactly what the
meters are exported as under this name, in the order of the meters. Nothing is lost or doubled on the
way, whatever the names and tags of the meters are (`covers_families`).
-/

namespace Metering.Exposition

variable {α : Type} [Amount α]

/-- The names under which a meter is exported, with what is shown there. -/
def quantities (m : Meter α) : List (String × Quantity α) :=
  let name := sanitize m.id.name
  match m.instrument with
  | .counter value =>
    [(if "_total".toList <:+ name.toList then name else name ++ "_total", .counter value)]
  | .gauge value => [(name, .gauge value)]
  | .timer t =>
    [(name ++ "_seconds", .summary t.count (Amount.seconds t.total)),
      (name ++ "_seconds_max", .gauge (Amount.seconds t.longest))]
  | .summary s => [(name, .summary s.count s.total), (name ++ "_max", .gauge s.largest)]

/-- The series of a meter under a name. -/
def seriesUnder (name : String) (m : Meter α) : List (Series α) :=
  ((quantities m).filter fun q => q.1 = name).map fun q =>
    ⟨m.id.tags.map fun t => ⟨sanitize t.key, t.value⟩, q.2⟩

/-- The number of series that meters of some kinds have in all. -/
def seriesCount (meters : List (Meter α)) : Nat :=
  let count (k : Kind) := meters.countP fun m => m.instrument.kind = k
  count .counter + count .gauge + 2 * count .timer + 2 * count .summary

/-- Families that hold what some meters are exported as. -/
structure Covers (meters : List (Meter α)) (fs : List (MetricFamily α)) : Prop where
  increasing : fs.Pairwise fun f g => f.name < g.name
  filled {f : MetricFamily α} : f ∈ fs → f.series ≠ []
  /-- A family has the series under its name, in the order of the meters. -/
  series {f : MetricFamily α} : f ∈ fs → f.series = meters.flatMap (seriesUnder f.name)
  /-- Every name under which a meter is exported has a family. -/
  named {m : Meter α} {q : String × Quantity α} :
    m ∈ meters → q ∈ quantities m → ∃ f ∈ fs, f.name = q.1
  /-- Help and type are those of what is exported first under the name. -/
  first {f : MetricFamily α} : f ∈ fs → ∃ before m after q, meters = before ++ m :: after ∧
    (∀ m' ∈ before, ∀ q' ∈ quantities m', q'.1 ≠ f.name) ∧
    (quantities m).find? (fun q => q.1 = f.name) = some q ∧
    f.help = m.description ∧ f.type = q.2.type
  size : (fs.map fun f => f.series.length).sum = seriesCount meters

/-- A counter is exported with the ending of counters, unless its name has that already. -/
lemma counterName_eq (name : String) : counterName name =
    if "_total".toList <:+ name.toList then name else name ++ "_total" :=
  if_congr List.isSuffixOf_iff_suffix rfl rfl

omit [Amount α] in
/-- What a meter contributes for one of the names under which it is exported. -/
def contribution (m : Meter α) (q : String × Quantity α) : Contribution α :=
  ⟨q.1, m.description, ⟨labels m.id.tags, q.2⟩⟩

/-- A meter contributes one series for each of its quantities. -/
lemma contributions_eq_map (m : Meter α) :
    contributions m = (quantities m).map (contribution m) := by
  rw [contributions, quantities]
  cases m.instrument with
  | counter value =>
    dsimp only
    rw [counterName_eq]
    rfl
  | gauge value => rfl
  | timer t => rfl
  | summary s => rfl

/-- What a meter contributes under a name are its series under that name. -/
lemma map_series_contributions (name : String) (m : Meter α) :
    ((contributions m).filter fun c => c.name = name).map Contribution.series =
      seriesUnder name m := by
  rw [contributions_eq_map, List.filter_map, List.map_map]
  rfl

/-- Meters contribute as many series as they have quantities. -/
lemma length_contributions (meters : List (Meter α)) :
    (meters.flatMap contributions).length = seriesCount meters := by
  induction meters with
  | nil => rfl
  | cons m meters ih =>
    rw [List.flatMap_cons, List.length_append, ih, seriesCount, seriesCount]
    simp only [List.countP_cons, contributions]
    cases m.instrument with
    | counter value => simp [Instrument.kind]; omega
    | gauge value => simp [Instrument.kind]; omega
    | timer t => simp [Instrument.kind]; omega
    | summary s => simp [Instrument.kind]; omega

/-- The first contribution to a family comes from the first meter that is exported under its name. -/
lemma exists_first {meters : List (Meter α)} {name : String} {c : Contribution α}
    (found : (meters.flatMap contributions).find? (fun c => c.name = name) = some c) :
    ∃ before m after q, meters = before ++ m :: after ∧
      (∀ m' ∈ before, ∀ q' ∈ quantities m', q'.1 ≠ name) ∧
      (quantities m).find? (fun q => q.1 = name) = some q ∧
      c.help = m.description ∧ c.series.quantity = q.2 := by
  rw [List.find?_flatMap] at found
  obtain ⟨before, m, after, split, here, none⟩ := List.findSome?_eq_some_iff.1 found
  rw [contributions_eq_map, List.find?_map] at here
  obtain ⟨q, first, rfl⟩ := Option.map_eq_some_iff.1 here
  refine ⟨before, m, after, q, split, fun m' mem q' listed => ?_, first, rfl, rfl⟩
  have missing := none m' mem
  rw [contributions_eq_map, List.find?_map, Option.map_eq_none_iff] at missing
  exact fun same => List.find?_eq_none.1 missing q' listed (decide_eq_true same)

/-- The families of a list of meters hold exactly what the meters are exported as. -/
theorem covers_families (meters : List (Meter α)) : Covers meters (families meters) := by
  have groups := groups_families meters
  have series {f : MetricFamily α} (mem : f ∈ families meters) :
      f.series = meters.flatMap (seriesUnder f.name) := by
    rw [groups.series mem, List.filter_flatMap, List.map_flatMap]
    exact List.flatMap_congr fun m _ => map_series_contributions f.name m
  constructor
  case increasing => exact groups.ordered
  case series => exact series
  -- a family begins with a contribution of its name
  case filled =>
    intro f mem empty
    obtain ⟨c, found, -⟩ := groups.first mem
    have name : c.name = f.name := by simpa using List.find?_some found
    rw [groups.series mem, List.map_eq_nil_iff, List.filter_eq_nil_iff] at empty
    exact empty c (List.mem_of_find?_eq_some found) (decide_eq_true name)
  case named =>
    intro m q mem listed
    have contributed : contribution m q ∈ contributions m := by
      rw [contributions_eq_map]
      exact List.mem_map_of_mem listed
    exact groups.named (List.mem_flatMap.2 ⟨m, mem, contributed⟩)
  case first =>
    intro f mem
    obtain ⟨c, found, help, type⟩ := groups.first mem
    obtain ⟨before, m, after, q, split, earlier, here, description, quantity⟩ := exists_first found
    rw [description] at help
    rw [quantity] at type
    exact ⟨before, m, after, q, split, earlier, here, help, type⟩
  case size =>
    rw [← length_shownSeries, (perm_families meters).length_eq, List.length_map,
      length_contributions]

end Metering.Exposition
