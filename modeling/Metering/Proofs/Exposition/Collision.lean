import Mathlib.Data.List.Nodup
import Mathlib.Data.List.Pairwise
import Metering.Exposition.Text
import Metering.Proofs.Exposition.Grouping

/-!
# Collisions

Exported names and labels are reduced to the characters of the format, and names get an ending by
the kind of the meter, so that meters of different identities may meet under one exported name
(`Exposition.Collide`). Main statement: `Exposition.unhidden_iff`. The families show every series as
what it is, and no labels twice, exactly if no two meters collide; then the value of every meter can
be read from them. Meters with legal names that have none of the endings do not collide.
-/

namespace Metering.Exposition

variable {α : Type}

/-! ## Families without collisions -/

/-- Families in which every series is shown as what it is and told apart by its labels, whatever
their order. -/
structure Unhidden (fs : List (MetricFamily α)) : Prop where
  types {f : MetricFamily α} {s : Series α} : f ∈ fs → s ∈ f.series → s.quantity.type = f.type
  labels {f : MetricFamily α} :
    f ∈ fs → f.series.Pairwise fun s s' => ¬ s.labels.Perm s'.labels

/-- What the families show under a name and labels. -/
def shown? [Amount α] (fs : List (MetricFamily α)) (name : String) (labels : List Tag) :
    Option (Quantity α) :=
  (fs.find? (·.name = name)).bind fun f =>
    (f.series.find? (·.labels.isPerm labels)).map fun s => shown f.type s.quantity

/-- Contributions to one family of which only the first one is shown as what it is. -/
def Contribution.Clash (c c' : Contribution α) : Prop :=
  c.name = c'.name ∧
    (c.series.quantity.type ≠ c'.series.quantity.type ∨ c.series.labels.Perm c'.series.labels)

variable {cs : List (Contribution α)} {fs : List (MetricFamily α)}

/-- A family has the series that are contributed under its name. -/
lemma Groups.mem_series (groups : Groups cs fs) {f : MetricFamily α} (mem : f ∈ fs) {s : Series α} :
    s ∈ f.series ↔ ∃ c ∈ cs, c.name = f.name ∧ c.series = s := by
  rw [groups.series mem, List.mem_map]
  simp only [List.mem_filter, decide_eq_true_eq, and_assoc]

/-- Where no series hides another, no two contributions clash. -/
lemma Groups.pairwise_of_unhidden (groups : Groups cs fs) (unhidden : Unhidden fs) :
    cs.Pairwise fun c c' => ¬ c.Clash c' := by
  refine List.pairwise_iff_getElem.2 fun i j hi hj before => ?_
  rintro ⟨name, differ | same⟩
  all_goals obtain ⟨f, mem, named⟩ := groups.named (List.getElem_mem hi)
  · have type {c : Contribution α} (listed : c ∈ cs) (name : c.name = f.name) :
        c.series.quantity.type = f.type :=
      unhidden.types mem ((groups.mem_series mem).2 ⟨c, listed, name, rfl⟩)
    refine differ ?_
    rw [type (List.getElem_mem hi) named.symm, type (List.getElem_mem hj) (by rw [named, name])]
  · have labels := unhidden.labels mem
    rw [groups.series mem, List.pairwise_map, List.pairwise_filter] at labels
    refine List.pairwise_iff_getElem.1 labels i j hi hj before ?_ ?_ same
    · exact decide_eq_true named.symm
    · exact decide_eq_true (by rw [named, name])

/-- Where no two contributions clash, no series hides another. -/
lemma Groups.unhidden_of_pairwise (groups : Groups cs fs)
    (apart : cs.Pairwise fun c c' => ¬ c.Clash c') : Unhidden fs := by
  have alike : ∀ ⦃c⦄, c ∈ cs → ∀ ⦃c'⦄, c' ∈ cs → c.name = c'.name →
      c.series.quantity.type = c'.series.quantity.type := by
    have symm : Std.Symm fun c c' : Contribution α =>
        c.name = c'.name → c.series.quantity.type = c'.series.quantity.type :=
      ⟨fun c c' same name => (same name.symm).symm⟩
    refine List.Pairwise.forall_of_forall (fun _ _ _ => rfl) (apart.imp fun clash name => ?_)
    exact by_contra fun ne => clash ⟨name, .inl ne⟩
  constructor
  case types =>
    intro f s mem shown
    obtain ⟨c, listed, name, rfl⟩ := (groups.mem_series mem).1 shown
    obtain ⟨first, found, -, type⟩ := groups.first mem
    have first_name : first.name = f.name := by simpa using List.find?_some found
    rw [type]
    exact alike listed (List.mem_of_find?_eq_some found) (name.trans first_name.symm)
  case labels =>
    intro f mem
    rw [groups.series mem, List.pairwise_map, List.pairwise_filter]
    refine apart.imp fun clash name name' same => clash ⟨?_, .inr same⟩
    exact (of_decide_eq_true name).trans (of_decide_eq_true name').symm

/-- Grouped contributions are told apart exactly if no two of them clash. -/
lemma Groups.unhidden_iff_pairwise (groups : Groups cs fs) :
    Unhidden fs ↔ cs.Pairwise fun c c' => ¬ c.Clash c' :=
  ⟨groups.pairwise_of_unhidden, groups.unhidden_of_pairwise⟩

/-- The only element with a property is the one that is found. -/
lemma find?_eq_of_unique {ι : Type} {p : ι → Bool} {l : List ι} {x : ι} (mem : x ∈ l) (found : p x)
    (unique : ∀ y ∈ l, p y → y = x) : l.find? p = some x := by
  cases first : l.find? p with
  | none => exact absurd found (List.find?_eq_none.1 first x mem)
  | some y => rw [unique y (List.mem_of_find?_eq_some first) (List.find?_some first)]

/-- What is not hidden can be read under its name and its labels. -/
lemma Groups.shown?_eq [Amount α] (groups : Groups cs fs) (unhidden : Unhidden fs)
    {c : Contribution α} (listed : c ∈ cs) :
    shown? fs c.name c.series.labels = some c.series.quantity := by
  obtain ⟨f, mem, name⟩ := groups.named listed
  have family : fs.find? (·.name = c.name) = some f := by
    refine find?_eq_of_unique mem (decide_eq_true name) fun g listed same => ?_
    have symm : Std.Symm fun f g : MetricFamily α => f.name ≠ g.name := ⟨fun _ _ => Ne.symm⟩
    have apart := groups.ordered.imp fun lt => (ne_of_lt lt).symm
    exact by_contra fun ne => apart.forall listed mem ne ((of_decide_eq_true same).trans name.symm)
  have series : c.series ∈ f.series := (groups.mem_series mem).2 ⟨c, listed, name.symm, rfl⟩
  have found : f.series.find? (·.labels.isPerm c.series.labels) = some c.series := by
    refine find?_eq_of_unique series (List.isPerm_iff.2 (.refl _)) fun s shown same => ?_
    have symm : Std.Symm fun s s' : Series α => ¬ s.labels.Perm s'.labels :=
      ⟨fun _ _ apart same => apart same.symm⟩
    exact by_contra fun ne => (unhidden.labels mem).forall shown series ne (List.isPerm_iff.1 same)
  have type : c.series.quantity.type = f.type := unhidden.types mem series
  simp only [shown?, family, Option.bind_some, found, Option.map_some, shown, if_pos type]

/-! ## Meters that collide -/

/-- The families to which a meter contributes. -/
def exports (m : Meter α) : List (String × FamilyType) :=
  let name := sanitize m.id.name
  match m.instrument.kind with
  | .counter => [(counterName name, .counter)]
  | .gauge => [(name, .gauge)]
  | .timer => [(name ++ "_seconds", .summary), (name ++ "_seconds_max", .gauge)]
  | .summary => [(name, .summary), (name ++ "_max", .gauge)]

/-- Meters that meet under one exported name, as different types or with the same labels. -/
def Collide (m m' : Meter α) : Prop :=
  ∃ e ∈ exports m, ∃ e' ∈ exports m', e.1 = e'.1 ∧
    (e.2 ≠ e'.2 ∨ (labels m.id.tags).Perm (labels m'.id.tags))

instance (m m' : Meter α) : Decidable (Collide m m') :=
  inferInstanceAs (Decidable (∃ e ∈ exports m, ∃ e' ∈ exports m', _ ∧ (_ ∨ _)))

/-- The families of one meter have different names. -/
lemma names_nodup (m : Meter α) : ((exports m).map Prod.fst).Nodup := by
  have other (name : String) {ending : String} (filled : ending ≠ "") : name ≠ name ++ ending := by
    intro same
    have lengths := congrArg String.length same
    rw [String.length_append] at lengths
    exact filled (String.length_eq_zero_iff.1 (by omega))
  rw [exports]
  cases m.instrument.kind with
  | counter => exact List.nodup_singleton _
  | gauge => exact List.nodup_singleton _
  | timer =>
    refine List.nodup_cons.2 ⟨?_, List.nodup_singleton _⟩
    simp [String.append_right_inj]
  | summary =>
    refine List.nodup_cons.2 ⟨?_, List.nodup_singleton _⟩
    simpa using other (sanitize m.id.name) (by decide)

variable [Amount α]

/-- A meter contributes what it exports. -/
lemma map_contributions (m : Meter α) :
    (contributions m).map (fun c => (c.name, c.series.quantity.type)) = exports m := by
  rw [contributions, exports]
  cases m.instrument <;> rfl

/-- Every contribution has the labels of the meter. -/
lemma labels_of_contribution {m : Meter α} {c : Contribution α} (mem : c ∈ contributions m) :
    c.series.labels = labels m.id.tags := by
  have all : ∀ c ∈ contributions m, c.series.labels = labels m.id.tags := by
    rw [contributions]
    cases m.instrument <;> simp
  exact all c mem

/-- Two meters contribute something that clashes if and only if they collide. -/
lemma clash_iff (m m' : Meter α) :
    (∃ c ∈ contributions m, ∃ c' ∈ contributions m', c.Clash c') ↔ Collide m m' := by
  simp only [Collide, ← map_contributions, List.mem_map, exists_exists_and_eq_and]
  constructor
  all_goals rintro ⟨c, mem, c', mem', name, differ | same⟩
  · exact ⟨c, mem, c', mem', name, .inl differ⟩
  · rw [labels_of_contribution mem, labels_of_contribution mem'] at same
    exact ⟨c, mem, c', mem', name, .inr same⟩
  · exact ⟨c, mem, c', mem', name, .inl differ⟩
  · rw [← labels_of_contribution mem, ← labels_of_contribution mem'] at same
    exact ⟨c, mem, c', mem', name, .inr same⟩

/-- What meters contribute clashes exactly if two of them collide. -/
lemma pairwise_contributions (meters : List (Meter α)) :
    (meters.flatMap contributions).Pairwise (fun c c' => ¬ c.Clash c') ↔
      meters.Pairwise fun m m' => ¬ Collide m m' := by
  have own (m : Meter α) : (contributions m).Pairwise fun c c' => ¬ c.Clash c' := by
    have names := names_nodup m
    rw [← map_contributions, List.map_map] at names
    exact (List.pairwise_map.1 names).imp fun ne clash => ne clash.1
  rw [List.pairwise_flatMap, and_iff_right fun m _ => own m]
  simp only [← clash_iff, not_exists, not_and]

/-! ## Names that keep apart -/

/-- What a kind puts behind the name of a meter, and the types of the families. -/
def endings : Kind → List (String × FamilyType)
  | .counter => [("_total", .counter)]
  | .gauge => [("", .gauge)]
  | .timer => [("_seconds", .summary), ("_seconds_max", .gauge)]
  | .summary => [("", .summary), ("_max", .gauge)]

/-- What the name of a meter must not end with to be told from all other names. -/
def marks : List String := ["_total", "_seconds", "_max"]

/-- Names and keys that are exported as they are, and have none of the endings. -/
structure Plain (id : MeterId) : Prop where
  name : sanitize id.name = id.name
  keys : ∀ t ∈ id.tags, sanitize t.key = t.key
  unmarked : ∀ mark ∈ marks, ¬ mark.toList <:+ id.name.toList

/-- Meters under plain names. One name has one kind, and its tags one order. -/
structure Uniform (meters : List (Meter α)) : Prop where
  plain : ∀ m ∈ meters, Plain m.id
  kind : ∀ m ∈ meters, ∀ m' ∈ meters, m.id.name = m'.id.name →
    m.instrument.kind = m'.instrument.kind
  order : ∀ m ∈ meters, ∀ m' ∈ meters, m.id.name = m'.id.name → m.id.tags.Perm m'.id.tags →
    m.id.tags = m'.id.tags

omit [Amount α] in
/-- A plain meter is exported under its name with the endings of its kind. -/
lemma exports_of_plain {m : Meter α} (plain : Plain m.id) :
    exports m = (endings m.instrument.kind).map fun e => (m.id.name ++ e.1, e.2) := by
  have total : counterName m.id.name = m.id.name ++ "_total" := by
    refine if_neg fun marked => plain.unmarked "_total" (by decide) ?_
    exact List.isSuffixOf_iff_suffix.1 marked
  rw [exports, plain.name]
  cases m.instrument.kind <;> simp [endings, total]

/-- The labels of a plain meter are its tags. -/
lemma labels_of_plain {id : MeterId} (plain : Plain id) : labels id.tags = id.tags := by
  refine (List.map_congr_left fun t mem => ?_).trans (List.map_id _)
  rw [plain.keys t mem]
  rfl

/-- All endings. -/
def endingTexts : List String := ["", "_total", "_seconds", "_seconds_max", "_max"]

/-- The endings of every kind are among those that are listed. -/
lemma mem_endingTexts {k : Kind} {e : String × FamilyType} (mem : e ∈ endings k) :
    e.1 ∈ endingTexts := by
  have all : ∀ k : Kind, ∀ e ∈ endings k, e.1 ∈ endingTexts := by
    intro k
    cases k <;> decide
  exact all k e mem

/-- The endings of one kind are told apart by their texts. -/
lemma ending_eq {k : Kind} {e e' : String × FamilyType} (mem : e ∈ endings k)
    (mem' : e' ∈ endings k) (text : e.1 = e'.1) : e = e' := by
  have all : ∀ k : Kind, ∀ e ∈ endings k, ∀ e' ∈ endings k, e.1 = e'.1 → e = e' := by
    intro k
    cases k <;> decide
  exact all k e mem e' mem' text

/-- What an ending has more than another one ends with a mark. -/
lemma marked_of_append {x y : String} (hx : x ∈ endingTexts) (hy : y ∈ endingTexts)
    {a : List Char} (more : x.toList = a ++ y.toList) :
    a = [] ∨ ∃ mark ∈ marks, mark.toList <:+ a := by
  have closed : ∀ x ∈ endingTexts, ∀ y ∈ endingTexts, y.toList <:+ x.toList →
      x.toList.take (x.toList.length - y.toList.length) = [] ∨ ∃ mark ∈ marks,
        mark.toList <:+ x.toList.take (x.toList.length - y.toList.length) := by
    decide +kernel
  have found := closed x hx y hy ⟨a, more.symm⟩
  rwa [more, List.length_append, Nat.add_sub_cancel, List.take_left] at found

/-- Names that do not end in a mark are the same if they are with endings behind them. -/
lemma name_eq_of_append {n n' x y : String} (hx : x ∈ endingTexts) (hy : y ∈ endingTexts)
    (unmarked : ∀ mark ∈ marks, ¬ mark.toList <:+ n.toList)
    (unmarked' : ∀ mark ∈ marks, ¬ mark.toList <:+ n'.toList) (same : n ++ x = n' ++ y) :
    n = n' := by
  have texts : n.toList ++ x.toList = n'.toList ++ y.toList := by
    rw [← String.toList_append, same, String.toList_append]
  refine String.toList_inj.1 ?_
  -- one name may be longer, but then it ends with a mark
  obtain ⟨a, name, ending⟩ | ⟨a, name, ending⟩ := List.append_eq_append_iff.1 texts
  · obtain rfl | ⟨mark, mem, marked⟩ := marked_of_append hx hy ending
    · rw [name, List.append_nil]
    · exact absurd (name ▸ marked.trans (List.suffix_append _ _)) (unmarked' mark mem)
  · obtain rfl | ⟨mark, mem, marked⟩ := marked_of_append hy hx ending
    · rw [name, List.append_nil]
    · exact absurd (name ▸ marked.trans (List.suffix_append _ _)) (unmarked mark mem)

omit [Amount α] in
/-- Uniform meters of different identities do not collide. -/
lemma Uniform.apart {meters : List (Meter α)} (uniform : Uniform meters)
    (ids : (meters.map Meter.id).Nodup) : meters.Pairwise fun m m' => ¬ Collide m m' := by
  refine (List.pairwise_map.1 ids).imp_of_mem fun {m m'} mem mem' ne collide => ne ?_
  have plain := uniform.plain m mem
  have plain' := uniform.plain m' mem'
  obtain ⟨e, he, e', he', same, clash⟩ := collide
  rw [exports_of_plain plain] at he
  rw [exports_of_plain plain'] at he'
  obtain ⟨x, hx, rfl⟩ := List.mem_map.1 he
  obtain ⟨y, hy, rfl⟩ := List.mem_map.1 he'
  have name : m.id.name = m'.id.name := name_eq_of_append (mem_endingTexts hx) (mem_endingTexts hy)
    plain.unmarked plain'.unmarked same
  have ending : x.1 = y.1 := by
    rw [name] at same
    exact (String.append_right_inj _).1 same
  have kind := uniform.kind m mem m' mem' name
  obtain differ | tags := clash
  · rw [← kind] at hy
    exact absurd (congrArg Prod.snd (ending_eq hx hy ending)) differ
  · rw [labels_of_plain plain, labels_of_plain plain'] at tags
    exact congrArg₂ MeterId.mk name (uniform.order m mem m' mem' name tags)

/-! ## Main statement -/

/-- No series hides another if and only if no two meters collide. -/
lemma unhidden_families (meters : List (Meter α)) :
    Unhidden (families meters) ↔ meters.Pairwise fun m m' => ¬ Collide m m' :=
  (groups_families meters).unhidden_iff_pairwise.trans (pairwise_contributions meters)

/-- Nothing is hidden exactly if no two meters collide, and then every value can be read under its
exported name and labels. Uniform meters of different identities do not collide. -/
theorem unhidden_iff (meters : List (Meter α)) :
    (Unhidden (families meters) ↔ meters.Pairwise fun m m' => ¬ Collide m m') ∧
    (Unhidden (families meters) → ∀ m ∈ meters, ∀ c ∈ contributions m,
      shown? (families meters) c.name c.series.labels = some c.series.quantity) ∧
    ((meters.map Meter.id).Nodup → Uniform meters → Unhidden (families meters)) := by
  refine ⟨unhidden_families meters, fun unhidden m mem c contributed => ?_, fun ids uniform => ?_⟩
  · exact (groups_families meters).shown?_eq unhidden (List.mem_flatMap.2 ⟨m, mem, contributed⟩)
  · exact (unhidden_families meters).2 (uniform.apart ids)

/-- A timer, a counter and two gauges under names that are beginnings of each other. -/
theorem unhidden_of_four_meters :
    let meters : List (Meter Float) := [
      ⟨⟨"a", [⟨"k", "1"⟩]⟩, "", .gauge 1⟩, ⟨⟨"a", [⟨"k", "2"⟩]⟩, "", .gauge 2⟩,
      ⟨⟨"a_max_size", []⟩, "", .timer ⟨1, 2, 2⟩⟩, ⟨⟨"a_", []⟩, "", .counter 3⟩]
    (meters.map Meter.id).Nodup ∧ Uniform meters ∧ Unhidden (families meters) ∧
      ∀ m ∈ meters, ∀ c ∈ contributions m,
        shown? (families meters) c.name c.series.labels = some c.series.quantity := by
  intro meters
  have ids : (meters.map Meter.id).Nodup := by decide
  have uniform : Uniform meters := by
    refine ⟨fun m mem => ?_, by decide, by decide⟩
    have name : ∀ m ∈ meters, sanitize m.id.name = m.id.name := by decide +kernel
    have keys : ∀ m ∈ meters, ∀ t ∈ m.id.tags, sanitize t.key = t.key := by decide +kernel
    have unmarked : ∀ m ∈ meters, ∀ mark ∈ marks, ¬ mark.toList <:+ m.id.name.toList := by
      decide +kernel
    exact ⟨name m mem, keys m mem, unmarked m mem⟩
  obtain ⟨-, read, apart⟩ := unhidden_iff meters
  exact ⟨ids, uniform, apart ids uniform, read (apart ids uniform)⟩

/-- Meters of different identities may hide each other: a counter and a gauge with its ending, names
or keys that are reduced to the same, two kinds under one name, the greatest value of a summary and
a gauge, and tags in another order. -/
theorem not_unhidden_of_collisions :
    let gauge (name : String) (tags : List Tag) : Meter Float := ⟨⟨name, tags⟩, "", .gauge 1⟩
    let counter (name : String) (tags : List Tag) : Meter Float := ⟨⟨name, tags⟩, "", .counter 2⟩
    let summary (name : String) (tags : List Tag) : Meter Float :=
      ⟨⟨name, tags⟩, "", .summary ⟨1, 3, 3⟩⟩
    let registered := [
      [counter "a" [], gauge "a_total" []], [gauge "a.b" [], gauge "a_b" []],
      [gauge "a" [⟨"k.1", "x"⟩], gauge "a" [⟨"k_1", "x"⟩]],
      [gauge "a" [⟨"k", "x"⟩], summary "a" [⟨"k", "y"⟩]], [summary "a" [], gauge "a_max" []],
      [gauge "a" [⟨"k", "x"⟩, ⟨"l", "y"⟩], gauge "a" [⟨"l", "y"⟩, ⟨"k", "x"⟩]]]
    ∀ meters ∈ registered, (meters.map Meter.id).Nodup ∧ (∀ m ∈ meters, m.id.name ≠ "") ∧
      ¬ Unhidden (families meters) := by
  intro gauge counter summary registered
  have named : ∀ meters ∈ registered,
      (meters.map Meter.id).Nodup ∧ ∀ m ∈ meters, m.id.name ≠ "" := by
    decide
  have collide : ∀ meters ∈ registered, ¬ meters.Pairwise fun m m' => ¬ Collide m m' := by
    decide +kernel
  intro meters mem
  refine ⟨(named meters mem).1, (named meters mem).2, fun unhidden => ?_⟩
  exact collide meters mem ((unhidden_families meters).1 unhidden)

end Metering.Exposition
