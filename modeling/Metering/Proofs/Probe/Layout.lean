import Metering.Proofs.Probe.Account
import Metering.Proofs.Probe.Event

/-!
# Layouts

Templates that their names tell apart, each with one kind and one layout of labels. What an event
changes is given by entries: an item of the layout, the values besides the local label, and the
change. A touch adds to a meter if its entry concerns the meter, and nothing otherwise
(`Layout.gainOfAll_touch`). At an end of connections the entries tell all that an event adds, apart
from what happens to the connections (`Layout.Follows.gainOfAll`).
-/

namespace Metering

/-- Templates with laid out labels that their names tell apart. -/
structure Layout (ι : Type) where
  template : ι → LabelSet → Template
  name : ι → String
  kind : ι → Kind
  keys : ι → List String
  laid (i : ι) : Laid (template i) (name i) (kind i) (keys i)
  name_injective : name.Injective

namespace Layout

variable {ι : Type} (layout : Layout ι)

/-- What an event on a connection changes: a meter of one of the templates. -/
structure Entry where
  item : ι
  remoteEnd : String
  extra : List String
  change : Change ℚ
  size : (layout.keys item).length = extra.length := by rfl

variable {layout}

/-- The touch that makes a change, where the other labels are given. -/
def Entry.touch (s : Scope) (labels : LabelSet) (l : String) (e : layout.Entry) : Touch ℚ :=
  s.touch (layout.template e.item labels) (labels.values l e.remoteEnd e.extra) e.change

/-- Whether a change is one of the meter of a template for some values. -/
def Entry.Concerns [DecidableEq ι] (i : ι) (place : String → Bool) (extra : List String)
    (e : layout.Entry) : Bool :=
  e.item = i && place e.remoteEnd && e.extra = extra

variable [DecidableEq ι]

/-- A touch is one of the meter that its entry concerns. -/
lemma Entry.id_touch (e : layout.Entry) (s : Scope) (labels labels' : LabelSet) (l l' r' : String)
    {i : ι} {extra' : List String} (size' : extra'.length = (layout.keys i).length) :
    (layout.template i labels').meter (labels'.values l' r' extra') = (e.touch s labels l).id ↔
      e.Concerns i (labels.values l · [] = labels'.values l' r' []) extra' := by
  by_cases same : e.item = i
  · subst same
    refine ((layout.laid e.item).id_touch s labels labels' l l' e.remoteEnd r' e.size.symm size'
      e.change).trans ?_
    simp [Entry.Concerns, LabelSet.values_eq_iff (e.size.symm.trans size'.symm)]
  · have ne : layout.name i ≠ layout.name e.item := fun eq => same (layout.name_injective eq).symm
    refine iff_of_false (fun eq => ne ?_) (by simp [Entry.Concerns, same])
    rw [← (layout.laid i).name labels', ← (layout.laid e.item).name labels]
    exact congrArg MeterId.name eq

variable {M : Type} [AddMonoid M] (reading : Reading ℚ M)

/-- A touch adds to the meter of its template and values, and to no other one of the layout. -/
lemma gainOf_touch (e : layout.Entry) (s : Scope) (labels labels' : LabelSet) (l l' r' : String)
    {i : ι} {extra' : List String} (size' : extra'.length = (layout.keys i).length) :
    reading.gainOf s.registry ((layout.template i labels').meter (labels'.values l' r' extra'))
        (e.touch s labels l) =
      if e.Concerns i (labels.values l · [] = labels'.values l' r' []) extra' then
        reading.gain (layout.kind i) e.change
      else 0 := by
  have kind : (e.touch s labels l).kind = layout.kind e.item := (layout.laid e.item).kind labels
  rw [Reading.gainOf, kind]
  refine (if_congr ((and_iff_right rfl).trans (e.id_touch s labels labels' l l' r' size'))
    rfl rfl).trans ?_
  split
  case isTrue concerns =>
    have same : e.item = i := by
      simp only [Entry.Concerns, Bool.and_eq_true, decide_eq_true_eq] at concerns
      exact concerns.1.1
    rw [same]
    rfl
  case isFalse => rfl

/-- Entries of a layout gain what those of the item and the values gain. -/
lemma gainOfAll_touch (es : List layout.Entry) (s : Scope) (labels labels' : LabelSet)
    (l l' r' : String) {i : ι} {extra' : List String}
    (size' : extra'.length = (layout.keys i).length) :
    reading.gainOfAll s.registry ((layout.template i labels').meter (labels'.values l' r' extra'))
        (es.map (Entry.touch s labels l)) =
      (es.map fun e =>
        if e.Concerns i (labels.values l · [] = labels'.values l' r' []) extra' then
          reading.gain (layout.kind i) e.change
        else 0).sum := by
  induction es with
  | nil => rfl
  | cons e es ih =>
    rw [List.map_cons, Reading.gainOfAll_cons, ih, gainOf_touch reading e s _ _ _ _ _ size',
      List.map_cons, List.sum_cons]

end Layout

/-- What happens to connections adds nothing to meters of other names. -/
lemma Endpoint.gainOfAll_event {M : Type} [AddMonoid M] (reading : Reading ℚ M) (e : Endpoint)
    (event : Endpoint.Event) {r : RegistryRef} {id : MeterId}
    (other : id.name ∉ e.templates.map Template.name) :
    reading.gainOfAll r id (event.touches e) = 0 := by
  refine reading.gainOfAll_eq_zero fun t mem => reading.gainOf_of_name_ne fun same => ?_
  rcases event.touches_belong e none t mem with ⟨-, listed⟩ | ⟨sample, ends, -⟩
  · exact other (same ▸ List.mem_map_of_mem listed)
  · cases ends

/-! ## Events at ends of connections -/

/-- Whether a connection has these label values at an end. -/
def Endpoint.isOn (e : Endpoint) (base : List String) (remoteEnd : String) : Bool :=
  e.values remoteEnd [] = base

namespace Layout

variable {ι : Type} {layout : Layout ι}

/-- What follows from an event at an end of connections: the touches of its entries, or those of
something that happens to a connection. -/
inductive Follows (layout : Layout ι) (e : Endpoint) (es : List layout.Entry)
    (ts : List (Touch ℚ)) : Prop where
  | entries (eq : ts = es.map (Entry.touch e.scope e.labels e.localEnd))
  | connection (event : Endpoint.Event) (none : es = []) (eq : ts = event.touches e)

/-- An event adds to a meter what those of its entries add that concern the meter. -/
lemma Follows.gainOfAll [DecidableEq ι] {M : Type} [AddMonoid M] (reading : Reading ℚ M)
    {e : Endpoint} {es : List layout.Entry} {ts : List (Touch ℚ)} (follows : layout.Follows e es ts)
    {i : ι} (other : layout.name i ∉ e.templates.map Template.name) (labels : LabelSet)
    (l r : String) (extra : List String) (size : extra.length = (layout.keys i).length) :
    reading.gainOfAll e.scope.registry
        ((layout.template i labels).meter (labels.values l r extra)) ts =
      (es.map fun entry =>
        if entry.Concerns i (e.isOn (labels.values l r [])) extra then
          reading.gain (layout.kind i) entry.change
        else 0).sum := by
  cases follows with
  | entries eq =>
    subst eq
    exact gainOfAll_touch reading es e.scope e.labels labels e.localEnd l r size
  | connection event none eq =>
    subst none eq
    refine Endpoint.gainOfAll_event reading e event ?_
    rw [Template.meter, MeterId.ofLabels, (layout.laid i).name]
    exact other

end Layout

end Metering
