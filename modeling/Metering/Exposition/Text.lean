import Metering.Exposition

/-!
# Exposition text

The text in which metric families are exposed: for each family its help and type and a line for
each sample. Series with fewer labels come first, then the label values decide. A series of another
type than its family's shows zero.
-/

namespace Metering.Exposition

/-- The text with backslashes and line ends escaped. -/
def escapeHelp (s : String) : List Char :=
  s.toList.flatMap fun c =>
    if c = '\\' then ['\\', '\\'] else if c = '\n' then ['\\', 'n'] else [c]

/-- The text with backslashes, line ends and quotes escaped. -/
def escapeLabel (s : String) : List Char :=
  s.toList.flatMap fun c =>
    if c = '\\' then ['\\', '\\'] else if c = '\n' then ['\\', 'n']
    else if c = '"' then ['\\', '"'] else [c]

/-- A label with its value. -/
def labelText (t : Tag) : List Char :=
  t.key.toList ++ '=' :: '"' :: escapeLabel t.value ++ ['"']

/-- The labels of a sample between braces, if there are any. -/
def labelsText (labels : List Tag) : List Char :=
  if labels.isEmpty then [] else '{' :: [','].intercalate (labels.map labelText) ++ ['}']

/-- The first label value that differs decides. -/
def orderValues : List Tag → List Tag → Ordering
  | a :: as, b :: bs => (compare a.value b.value).then (orderValues as bs)
  | _, _ => .eq

/-- The number of labels decides, then the label values. -/
def orderLabels (a b : List Tag) : Ordering :=
  (compare a.length b.length).then (orderValues a b)

variable {α : Type}

/-- The series of a family in the order in which they are exposed. -/
def sortSeries (series : List (Series α)) : List (Series α) :=
  series.mergeSort fun a b => orderLabels a.labels b.labels != .gt

variable [Amount α]

/-- What a series shows in a family of some type. -/
def shown (type : FamilyType) (q : Quantity α) : Quantity α :=
  if q.type = type then q
  else
    match type with
    | .counter => .counter 0
    | .gauge => .gauge 0
    | .summary => .summary 0 0

/-- The line of a sample. -/
def sampleText (name : String) (labels : List Tag) (value : α) :
    List Char :=
  name.toList ++ labelsText labels ++ ' ' :: Amount.text value ++ ['\n']

/-- The lines of a series. -/
def seriesText (f : MetricFamily α) (s : Series α) : List Char :=
  match shown f.type s.quantity with
  | .counter value => sampleText f.name s.labels value
  | .gauge value => sampleText f.name s.labels value
  | .summary count sum =>
    sampleText (f.name ++ "_sum") s.labels sum ++
      sampleText (f.name ++ "_count") s.labels (Amount.ofCount count : α)

/-- The lines of a family. -/
def familyText (f : MetricFamily α) : List Char :=
  let help :=
    if f.help = "" then []
    else "# HELP ".toList ++ f.name.toList ++ ' ' :: escapeHelp f.help ++ ['\n']
  let type := "# TYPE ".toList ++ f.name.toList ++ ' ' :: f.type.name.toList ++ ['\n']
  help ++ type ++ (sortSeries f.series).flatMap (seriesText f)

/-- The text of families. A family without a name cannot be exposed. -/
def render (fs : List (MetricFamily α)) : Except MeteringError String :=
  if fs.any fun f => f.name = "" then
    .error (.exposition (MeteringError.explained "MetricFamily has no name"))
  else .ok (String.ofList (fs.flatMap familyText))

/-- The text of meters. -/
def scrape (meters : List (Meter α)) : Except MeteringError String :=
  render (families meters)

end Metering.Exposition
