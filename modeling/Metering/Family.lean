import Metering.Label
import Metering.Meter

/-!
# Families

A family is a template for instruments that differ in the values of their labels only. It belongs
to a scope, which is set up over one registry; within a scope the name tells families apart. What
happens to a family's instruments is described by touches: which instrument, and what changes.
-/

namespace Metering

/-- A registry of meters. -/
structure RegistryRef where
  index : Nat
  deriving DecidableEq, Repr

/-- Families that were set up together over one registry. -/
structure Scope where
  number : Nat
  registry : RegistryRef
  deriving DecidableEq, Repr

/-- What the instruments of a family have in common. -/
structure Template where
  kind : Kind
  name : String
  description : String
  /-- The names of the labels, in order. -/
  keys : List String
  deriving DecidableEq, Repr

/-- A template set up in a scope. -/
structure Family where
  scope : Scope
  template : Template
  deriving DecidableEq, Repr

namespace Family

/-- The values under which the family keeps an instrument. Surplus values are dropped. -/
def key (f : Family) (values : List String) : LabelKey :=
  LabelKey.ofValues values f.template.keys.length

/-- The identity of the meter for these values. -/
def id (f : Family) (values : List String) : MeterId :=
  MeterId.ofLabels f.template.name f.template.keys (f.key values).values

end Family

/-- A change of the instrument that a family keeps for some values. -/
structure Touch (α : Type) where
  family : Family
  values : List String
  change : Change α

/-- A change of the instrument for some values, the family being named by scope and template. -/
def Scope.touch {α : Type} (s : Scope) (template : Template) (values : List String)
    (change : Change α) : Touch α :=
  ⟨⟨s, template⟩, values, change⟩

/-- A timing that has begun, bound to the timer that it will be recorded with. -/
structure Sample where
  family : Family
  values : List String
  deriving DecidableEq, Repr

namespace Sample

variable {α : Type}

/-- The timing that begins now. -/
def of (s : Scope) (template : Template) (values : List String) : Sample :=
  ⟨⟨s, template⟩, values⟩

/-- The beginning of the timing, which makes sure that the timer exists. -/
def start (s : Sample) : Touch α :=
  ⟨s.family, s.values, .touch⟩

/-- The end of the timing after some nanoseconds. -/
def finish (s : Sample) (nanos : Nat) : Touch α :=
  ⟨s.family, s.values, .elapse nanos⟩

end Sample

end Metering
