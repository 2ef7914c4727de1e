import Metering.Hub

/-!
# Line protocol

A meter as one line for a time series database: the name and the tags, a space, the fields, a space
and the timestamp. Commas and spaces in names, and equals signs in tags too, are written behind a
backslash. Tags without a value and fields that are not finite are left out.
-/

namespace Metering.Influx

/-- The text with a backslash before each special character. -/
def escape (special : List Char) (s : String) : List Char :=
  s.toList.flatMap fun c => if special.contains c then ['\\', c] else [c]

/-- The characters that are special in the name of a measurement. -/
def nameSpecials : List Char := [',', ' ']

/-- The characters that are special in tags. -/
def tagSpecials : List Char := [',', '=', ' ']

/-- A tag behind the comma that sets it off. -/
def tagText (t : Tag) : List Char :=
  ',' :: escape tagSpecials t.key ++ '=' :: escape tagSpecials t.value

/-- The key of the tag that tells how to read the fields. -/
def typeKey : String := "metric_type"

/-- How the fields of a kind of instrument are to be read. -/
def typeText : Kind → String
  | .counter => "counter"
  | .gauge => "gauge"
  | .timer => "histogram"
  | .summary => "histogram"

variable {α : Type} [Amount α]

/-- The fields of an instrument. Durations are in milliseconds. -/
def fields : Instrument α → List (String × α)
  | .counter value => [("value", value)]
  | .gauge value => [("value", value)]
  | .timer t =>
    [("count", Amount.ofCount t.count), ("sum", Amount.milliseconds t.total),
     ("mean", Amount.milliseconds t.mean), ("upper", Amount.milliseconds t.longest)]
  | .summary s =>
    [("count", Amount.ofCount s.count), ("sum", s.total), ("mean", s.mean), ("upper", s.largest)]

/-- The fields that can be written. -/
def finiteFields (i : Instrument α) : List (String × α) :=
  (fields i).filter fun f => Amount.isFinite f.2

/-- A field and its value. -/
def fieldText (f : String × α) : List Char :=
  f.1.toList ++ '=' :: Amount.text f.2

/-- The name, the tags that have a value, and the type. -/
def seriesText (id : MeterId) (kind : Kind) : List Char :=
  escape nameSpecials id.name ++ (id.tags.filter (·.value ≠ "")).flatMap tagText ++
    ',' :: typeKey.toList ++ '=' :: (typeText kind).toList

/-- The line of a meter, if it has a field that can be written. -/
def line? (timestamp : Int) (m : Meter α) : Option (List Char) :=
  match finiteFields m.instrument with
  | [] => none
  | fields =>
    some (seriesText m.id m.instrument.kind ++
      ' ' :: [','].intercalate (fields.map fieldText) ++
      ' ' :: Number.intText timestamp)

/-- The lines of meters in their order. -/
def lines (timestamp : Int) (meters : List (Meter α)) : List String :=
  (meters.filterMap (line? timestamp)).map String.ofList

end Metering.Influx
