import Metering.Instrument

/-!
# Meter identities

A meter is known by its name and its tags. Meters are listed by name and, under one name, by tags:
key before value, and a list of tags before its extensions.
-/

namespace Metering

/-- A named value attached to a meter. -/
structure Tag where
  key : String
  value : String
  deriving DecidableEq, Repr

/-- The identity of a meter. -/
structure MeterId where
  name : String
  tags : List Tag
  deriving DecidableEq, Repr

/-- Tags are ordered by key, then by value. -/
def Tag.order (a b : Tag) : Ordering :=
  (compare a.key b.key).then (compare a.value b.value)

/-- The first difference decides, and a shorter list comes before its extensions. -/
def Tag.orderAll : List Tag → List Tag → Ordering
  | [], [] => .eq
  | [], _ :: _ => .lt
  | _ :: _, [] => .gt
  | a :: as, b :: bs => (a.order b).then (orderAll as bs)

namespace MeterId

/-- The identity with the keys paired to the values in order, as far as both reach. -/
def ofLabels (name : String) (keys values : List String) : MeterId :=
  ⟨name, List.zipWith Tag.mk keys values⟩

/-- Identities are ordered by name, then by tags. -/
def order (a b : MeterId) : Ordering :=
  (compare a.name b.name).then (Tag.orderAll a.tags b.tags)

/-- The name, then the tags between square brackets if there are any. -/
def text (id : MeterId) : String :=
  if id.tags.isEmpty then id.name
  else id.name ++ "[" ++ ",".intercalate (id.tags.map fun t => t.key ++ "=" ++ t.value) ++ "]"

end MeterId

end Metering
