import Metering.Hub

/-!
# Exposition

The meters of a registry as metric families: groups of series under one exported name. Names and
label names are reduced to the characters that the format allows. A timer is exported as a summary
and a gauge for its maximum, in seconds, and a summary likewise.
-/

namespace Metering

/-- The type of a metric family. -/
inductive FamilyType where
  | counter
  | gauge
  | summary
  deriving DecidableEq, Repr

def FamilyType.name : FamilyType → String
  | counter => "counter"
  | gauge => "gauge"
  | summary => "summary"

/-- What a series shows. -/
inductive Quantity (α : Type) where
  | counter (value : α)
  | gauge (value : α)
  | summary (count : UInt64) (sum : α)
  deriving Repr

/-- The type of the families that a quantity belongs to. -/
def Quantity.type {α : Type} : Quantity α → FamilyType
  | counter _ => .counter
  | gauge _ => .gauge
  | summary _ _ => .summary

/-- A quantity under its labels. -/
structure Series (α : Type) where
  labels : List Tag
  quantity : Quantity α
  deriving Repr

/-- The series under one exported name. Type and help are those of the first one. -/
structure MetricFamily (α : Type) where
  name : String
  help : String
  type : FamilyType
  series : List (Series α)
  deriving Repr

namespace Exposition

/-- A character that names may hold. -/
def isNameChar (c : Char) : Bool :=
  c.isAlphanum || c == '_' || c == ':'

/-- The text with an underscore for each character that names must not hold. -/
def sanitize (s : String) : String :=
  String.ofList (s.toList.map fun c => if isNameChar c then c else '_')

/-- The labels of a meter. -/
def labels (tags : List Tag) : List Tag :=
  tags.map fun t => ⟨sanitize t.key, t.value⟩

/-- The end of every counter's name. -/
def totalMark : String := "_total"

/-- The name of a counter, which is marked as a total. -/
def counterName (name : String) : String :=
  if totalMark.toList.isSuffixOf name.toList then name else name ++ totalMark

variable {α : Type}

/-- A series to be added to the family of a name. -/
structure Contribution (α : Type) where
  name : String
  help : String
  series : Series α

variable [Amount α]

/-- What a meter contributes to the families. -/
def contributions (m : Meter α) : List (Contribution α) :=
  let name := sanitize m.id.name
  let part (name : String) (q : Quantity α) : Contribution α :=
    ⟨name, m.description, labels m.id.tags, q⟩
  match m.instrument with
  | .counter value => [part (counterName name) (.counter value)]
  | .gauge value => [part name (.gauge value)]
  | .timer t =>
    [part (name ++ "_seconds") (.summary t.count (Amount.seconds t.total)),
     part (name ++ "_seconds_max") (.gauge (Amount.seconds t.longest))]
  | .summary s =>
    [part name (.summary s.count s.total), part (name ++ "_max") (.gauge s.largest)]

omit [Amount α] in
/-- The family of a first contribution. -/
def familyOf (c : Contribution α) : MetricFamily α :=
  ⟨c.name, c.help, c.series.quantity.type, [c.series]⟩

omit [Amount α] in
/-- Families in the order of their names, with one more contribution. -/
def insert (c : Contribution α) : List (MetricFamily α) → List (MetricFamily α)
  | [] => [familyOf c]
  | f :: fs =>
    if c.name = f.name then { f with series := f.series ++ [c.series] } :: fs
    else if c.name < f.name then familyOf c :: f :: fs
    else f :: insert c fs

/-- The families of some meters, in the order of their names. -/
def families (meters : List (Meter α)) : List (MetricFamily α) :=
  (meters.flatMap contributions).foldl (fun fs c => insert c fs) []

end Exposition

end Metering
