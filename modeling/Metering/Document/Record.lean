import Metering.Document

/-!
# Records in documents

Reading a value of a known shape from a document: booleans, texts, bounded numbers, optional
values and records. A record has a default for each field. It is written as an object, in which
fields stand in any order and unknown names are passed over, or as the list of its fields in their
order, which may stop early. What happens to surplus items depends on where the document comes
from.
-/

namespace Metering.Document

/-- Where a value comes from. -/
inductive Origin where
  /-- A text in JSON, made sense of while it is read. -/
  | json
  /-- A text in TOML. -/
  | toml
  /-- A value that was put aside before anybody made sense of it. -/
  | held
  deriving DecidableEq, Repr

namespace Node

/-- A boolean. -/
def toBool : Node → Except Misreading Bool
  | bool b => .ok b
  | n => .error n.unsuited

def toText : Node → Except Misreading String
  | text (.ok s) _ => .ok s
  | n => .error n.unsuited

/-- A natural number below a limit. -/
def toNatBelow (limit : Nat) : Node → Except Misreading Nat
  | integer n => if 0 ≤ n ∧ n < limit then .ok n.toNat else .error .mismatch
  | n => .error n.unsuited

/-- A number of 16 bits. -/
def toUInt16 (n : Node) : Except Misreading UInt16 :=
  (n.toNatBelow UInt16.size).map UInt16.ofNat

/-- A number of 64 bits. -/
def toUInt64 (n : Node) : Except Misreading UInt64 :=
  (n.toNatBelow UInt64.size).map UInt64.ofNat

/-- A value that may be null. -/
def toOption {α : Type} (read : Node → Except Misreading α) : Node → Except Misreading (Option α)
  | null => .ok none
  | n => (read n).map some

/-- All items of a list. -/
def toList {α : Type} (read : Node → Except Misreading α) : Node → Except Misreading (List α)
  | list items ending => do
    let values ← items.mapM read
    ending.check
    return values
  | n => .error n.unsuited

end Node

/-- A field of a record: its name, and how a node overrides its value. -/
structure RecordField (ρ : Type) where
  name : String
  set : Node → ρ → Except Misreading ρ

namespace RecordField

variable {ρ α : Type}

/-- A field that takes the value that is read. -/
def reading (name : String) (read : Node → Except Misreading α) (put : α → ρ → ρ) :
    RecordField ρ where
  name := name
  set n r := (read n).map fun a => put a r

/-- What is wrong with a list that goes on behind the last field, if anything. -/
def surplus : Origin → Except Misreading Unit
  | .json => .error .malformed
  | .toml => .ok ()
  | .held => .error .mismatch

/-- What is wrong with the ending of a list that gives all fields. -/
def full : Ending → Except Misreading Unit
  | .closed => .ok ()
  | .noSeparator .incomplete => .error .incomplete
  | _ => .error .malformed

/-- A record from the list of its fields. -/
def ofItems (origin : Origin) (ending : Ending) :
    List (RecordField ρ) → List Node → ρ → Except Misreading ρ
  | [], [], r => do full ending; return r
  | [], _ :: _, r => do surplus origin; return r
  | _ :: _, [], r => do ending.check; return r
  | field :: fields, item :: items, r => do ofItems origin ending fields items (← field.set item r)

/-- A record from named fields, those in `seen` having been met before. -/
def ofEntries (fields : List (RecordField ρ)) (ending : Ending) :
    List (Except Misreading String × Node) → List String → ρ → Except Misreading ρ
  | [], _, r => do ending.check; return r
  | (key, value) :: rest, seen, r => do
    let name ← key
    match fields.find? (·.name == name) with
    | none =>
      value.skip
      ofEntries fields ending rest seen r
    | some field =>
      if seen.contains name then throw .mismatch
      ofEntries fields ending rest (name :: seen) (← field.set value r)

/-- A record with these fields, over its default. -/
def record (origin : Origin) (fields : List (RecordField ρ)) (default : ρ) :
    Node → Except Misreading ρ
  | .list items ending => ofItems origin ending fields items default
  | .members entries ending => ofEntries fields ending entries [] default
  | n => .error n.unsuited

end RecordField

end Metering.Document
