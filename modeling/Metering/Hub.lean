import Metering.Error
import Metering.Family

/-!
# The hub

All instruments, the registries that list them, and the slots in which families keep them. Listings
and slots refer to instruments, so that whoever holds an instrument sees the same one. A family
asks its registry only once for each tuple of values; what it got, it keeps.
-/

namespace Metering

/-- An instrument of the hub. -/
structure MeterRef where
  index : Nat
  deriving DecidableEq, Repr

/-- A meter that a registry lists. -/
structure Listing where
  id : MeterId
  description : String
  meter : MeterRef
  deriving DecidableEq, Repr

inductive Registry where
  /-- Lists the meters that were registered, at most one for each identity. -/
  | store (listings : List Listing)
  /-- Lists none. -/
  | discarding
  deriving DecidableEq, Repr

/-- The place where a family keeps the instrument for a tuple of values. -/
structure Slot where
  scope : Nat
  name : String
  key : LabelKey
  deriving DecidableEq, Repr

/-- A listed meter with its present state. -/
structure Meter (α : Type) where
  id : MeterId
  description : String
  instrument : Instrument α
  deriving Repr

/-- All instruments and who refers to them. -/
structure Hub (α : Type) where
  instruments : Array (Instrument α)
  registries : Array Registry
  /-- The number of scopes so far. -/
  scopes : Nat
  slots : List (Slot × MeterRef)

namespace Registry

/-- The listed meters. -/
def listings : Registry → List Listing
  | store listings => listings
  | discarding => []

/-- The meter listed under an identity. -/
def find? (r : Registry) (id : MeterId) : Option Listing :=
  r.listings.find? fun l => l.id = id

/-- The registry with one more meter. -/
def list (r : Registry) (l : Listing) : Registry :=
  match r with
  | store listings => store (listings ++ [l])
  | discarding => discarding

/-- The registry without its meters. -/
def clear : Registry → Registry
  | store _ => store []
  | discarding => discarding

end Registry

namespace Hub

variable {α : Type}

/-- The hub without anything. -/
def empty : Hub α := ⟨#[], #[], 0, []⟩

/-! ## Registries -/

/-- A new registry. -/
def addRegistry (h : Hub α) (r : Registry) : RegistryRef × Hub α :=
  (⟨h.registries.size⟩, { h with registries := h.registries.push r })

def registry (h : Hub α) (r : RegistryRef) : Registry :=
  h.registries.getD r.index .discarding

/-- The hub with all meters of a registry forgotten. Families keep their instruments. -/
def clear (h : Hub α) (r : RegistryRef) : Hub α :=
  { h with registries := h.registries.modify r.index Registry.clear }

/-- The number of meters that a registry lists. -/
def size (h : Hub α) (r : RegistryRef) : Nat :=
  (h.registry r).listings.length

/-- The state of a listed meter. -/
def meterOf (h : Hub α) (l : Listing) : Option (Meter α) :=
  h.instruments[l.meter.index]?.map fun instrument => ⟨l.id, l.description, instrument⟩

/-- The listed meters by name and tags. -/
def sorted (listings : List Listing) : List Listing :=
  listings.mergeSort fun a b => a.id.order b.id != .gt

/-- The meters of a registry with their states, by name and tags. -/
def meters (h : Hub α) (r : RegistryRef) : List (Meter α) :=
  (sorted (h.registry r).listings).filterMap h.meterOf

/-! ## Instruments -/

/-- A new instrument. -/
def add (h : Hub α) (i : Instrument α) : MeterRef × Hub α :=
  (⟨h.instruments.size⟩, { h with instruments := h.instruments.push i })

def instrument? (h : Hub α) (m : MeterRef) : Option (Instrument α) :=
  h.instruments[m.index]?

variable [Amount α]

/-- The hub with one instrument changed. -/
def change (h : Hub α) (m : MeterRef) (c : Change α) : Hub α :=
  { h with instruments := h.instruments.modify m.index (Instrument.apply c) }

/-- The value of a gauge. -/
def level (h : Hub α) (m : MeterRef) : α :=
  ((h.instrument? m).map Instrument.level).getD 0

/--
Registers a meter. A meter of the same identity and kind that is listed already takes its place; one
of another kind makes the registration fail.
-/
def register (h : Hub α) (r : RegistryRef) (id : MeterId) (description : String)
    (i : Instrument α) : Except MeteringError (MeterRef × Hub α) :=
  match (h.registry r).find? id with
  | some l =>
    let existing := ((h.instrument? l.meter).map Instrument.kind).getD i.kind
    if existing = i.kind then .ok (l.meter, h)
    else .error (.duplicateMeter id.text existing i.kind)
  | none =>
    let (m, h) := h.add i
    .ok (m, { h with
      registries := h.registries.modify r.index (Registry.list · ⟨id, description, m⟩) })

/-! ## Families -/

/-- A new scope over a registry. -/
def addScope (h : Hub α) (r : RegistryRef) : Scope × Hub α :=
  (⟨h.scopes, r⟩, { h with scopes := h.scopes + 1 })

/-- The slot of a family for some values. -/
def slot (f : Family) (values : List String) : Slot :=
  ⟨f.scope.number, f.template.name, f.key values⟩

/-- The instrument that a family keeps for some values, if there is one. -/
def kept? (h : Hub α) (f : Family) (values : List String) : Option MeterRef :=
  h.slots.lookup (slot f values)

/-- The number of instruments that a family keeps. -/
def familySize (h : Hub α) (f : Family) : Nat :=
  h.slots.countP fun s => s.1.scope = f.scope.number && s.1.name = f.template.name

/-- The family and the number of its instruments, for diagnostics. -/
def describe (h : Hub α) (f : Family) : String :=
  "Family \x7b name: " ++ Text.quote f.template.name ++ ", kind: " ++ f.template.kind.title ++
    ", keys: " ++ Text.quoteList f.template.keys ++ ", instruments: " ++
    String.ofList (Number.natText (h.familySize f)) ++ " \x7d"

/--
The instrument of a family for some values. On first use it is registered, and if that fails the
family has one of its own that no registry lists.
-/
def get (h : Hub α) (f : Family) (values : List String) : MeterRef × Hub α :=
  match h.kept? f values with
  | some m => (m, h)
  | none =>
    let fresh := Instrument.fresh f.template.kind
    let (m, h) :=
      match h.register f.scope.registry (f.id values) f.template.description fresh with
      | .ok registered => registered
      | .error _ => h.add fresh
    (m, { h with slots := (slot f values, m) :: h.slots })

/-- Changes the instrument of a family. -/
def touch (h : Hub α) (t : Touch α) : Hub α :=
  let (m, h) := h.get t.family t.values
  h.change m t.change

/-- Makes changes in order. -/
def perform (h : Hub α) (touches : List (Touch α)) : Hub α :=
  touches.foldl touch h

end Hub

end Metering
