import Metering.Proofs.Number.Count
import Metering.Proofs.Number.Text
import Metering.Influx.LineProtocol

/-!
# Reading line protocol

A reader for lines (`point?`), from the left to the right: a part ends at the first separator that
has no backslash before it, a backslash before a separator stands for the separator, and any other
for itself. It reads the line of a meter as the name, the tags, the fields and the timestamp that
the line was made from (`point?_line`).
-/

namespace Metering.Influx

/-! ## The reader -/

/-- Reads a part up to its separator, and what is left from there on. -/
def part (separators : List Char) : List Char → List Char × List Char
  | '\\' :: c :: rest =>
    if separators.contains c then (c :: (part separators rest).1, (part separators rest).2)
    else ('\\' :: (part separators (c :: rest)).1, (part separators (c :: rest)).2)
  | c :: rest =>
    if separators.contains c then ([], c :: rest)
    else (c :: (part separators rest).1, (part separators rest).2)
  | [] => ([], [])

/-- Reading a part leaves no more than was there. -/
lemma length_part_le (separators s : List Char) : (part separators s).2.length ≤ s.length := by
  fun_induction part separators s <;> simp_all <;> omega

/-- A key and a value, and what is left behind them. -/
structure Pair where
  key : String
  value : String
  rest : List Char

/-- Reads a key, an equals sign and a value. Neither key nor value may be missing. -/
def pair? (s : List Char) : Option Pair :=
  let key := part [',', '=', ' '] s
  match key.2 with
  | '=' :: s =>
    let value := part [',', '=', ' '] s
    if key.1 = [] ∨ value.1 = [] then none
    else some ⟨String.ofList key.1, String.ofList value.1, value.2⟩
  | _ => none

/-- Reading a pair takes at least one character. -/
lemma length_pair?_lt {s : List Char} {p : Pair} (read : pair? s = some p) :
    p.rest.length < s.length := by
  have key := length_part_le [',', '=', ' '] s
  unfold pair? at read
  simp only at read
  split at read
  · rename_i s' found
    have value := length_part_le [',', '=', ' '] s'
    split at read
    · cases read
    · cases read
      rw [found, List.length_cons] at key
      simp only
      omega
  · cases read

/-- Reads tags, each behind a comma. -/
def tags? : List Char → Option (List Tag × List Char)
  | ',' :: s =>
    match _read : pair? s with
    | some p => (tags? p.rest).map fun (tags, rest) => (⟨p.key, p.value⟩ :: tags, rest)
    | none => none
  | s => some ([], s)
termination_by s => s.length
decreasing_by
  have := length_pair?_lt _read
  rw [List.length_cons]
  omega

/-- Behind a comma a pair is the first tag. -/
lemma tags?_of_pair {s : List Char} {p : Pair} (read : pair? s = some p) :
    tags? (',' :: s) = (tags? p.rest).map fun (tags, rest) => (⟨p.key, p.value⟩ :: tags, rest) := by
  rw [tags?]
  split
  case h_1 p' read' =>
    cases read.symm.trans read'
    rfl
  case h_2 unread =>
    rw [read] at unread
    cases unread

/-- Reads fields between commas. There is at least one. -/
def fields? (s : List Char) : Option (List (String × String) × List Char) :=
  match _read : pair? s with
  | some ⟨key, value, ',' :: rest⟩ =>
    (fields? rest).map fun (fields, rest) => ((key, value) :: fields, rest)
  | some p => some ([(p.key, p.value)], p.rest)
  | none => none
termination_by s.length
decreasing_by
  have := length_pair?_lt _read
  simp only [List.length_cons] at this
  omega

/-- Behind a field and a comma comes another field. -/
lemma fields?_of_comma {s rest : List Char} {key value : String}
    (read : pair? s = some ⟨key, value, ',' :: rest⟩) :
    fields? s = (fields? rest).map fun (fields, rest) => ((key, value) :: fields, rest) := by
  rw [fields?]
  split
  case h_1 read' =>
    cases read.symm.trans read'
    rfl
  case h_2 other read' =>
    cases read.symm.trans read'
    exact absurd rfl (other _ _ _)
  case h_3 unread =>
    rw [read] at unread
    cases unread

/-- A field that no comma follows is the last one. -/
lemma fields?_of_end {s : List Char} {p : Pair} (read : pair? s = some p)
    (last : p.rest.head? ≠ some ',') : fields? s = some ([(p.key, p.value)], p.rest) := by
  rw [fields?]
  split
  case h_1 read' =>
    cases read.symm.trans read'
    exact absurd rfl last
  case h_2 read' =>
    cases read.symm.trans read'
    rfl
  case h_3 unread =>
    rw [read] at unread
    cases unread

/-- What a line says. -/
structure Point where
  measurement : String
  tags : List Tag
  fields : List (String × String)
  timestamp : Option Int
  deriving DecidableEq, Repr

/-- Reads the end of a line: nothing, or a timestamp behind a space. -/
def timestamp? : List Char → Option (Option Int)
  | [] => some none
  | ' ' :: s => (Number.int? s).map some
  | _ => none

/-- Reads a line: the name, which may not be missing, tags, fields, and perhaps a timestamp. -/
def point? (line : List Char) : Option Point := do
  let name := part [',', ' '] line
  let (tags, s) ← tags? name.2
  match s with
  | ' ' :: s =>
    let (fields, s) ← fields? s
    let timestamp ← timestamp? s
    if name.1 = [] then none else some ⟨String.ofList name.1, tags, fields, timestamp⟩
  | _ => none

/-! ## Parts -/

/-- The characters of a text, with a backslash before each special one. -/
def escaped (special s : List Char) : List Char :=
  s.flatMap fun c => if special.contains c then ['\\', c] else [c]

/-- Escaping a text escapes its characters. -/
lemma escape_eq (special : List Char) (s : String) : escape special s = escaped special s.toList :=
  rfl

/-- Characters are escaped one by one. -/
lemma escaped_cons (special : List Char) (c : Char) (s : List Char) :
    escaped special (c :: s) =
      if special.contains c then '\\' :: c :: escaped special s else c :: escaped special s := by
  rw [escaped, List.flatMap_cons]
  split <;> rfl

/-- A text without special characters is escaped as itself. -/
lemma escaped_eq_self {special s : List Char} (plain : ∀ c ∈ s, special.contains c = false) :
    escaped special s = s := by
  induction s with
  | nil => rfl
  | cons c s ih =>
    obtain ⟨first, rest⟩ := List.forall_mem_cons.1 plain
    rw [escaped_cons, first, if_neg Bool.false_ne_true, ih rest]

/-- A part ends before a separator. -/
lemma part_separator {separators : List Char} {c : Char} (separator : separators.contains c)
    (ne : c ≠ '\\') (rest : List Char) : part separators (c :: rest) = ([], c :: rest) := by
  rw [part.eq_2 _ _ _ (fun _ _ first _ => ne first), if_pos separator]

/-- A separator behind a backslash belongs to the part. -/
lemma part_escaped {separators : List Char} {c : Char} (separator : separators.contains c)
    (rest : List Char) : part separators ('\\' :: c :: rest) =
      (c :: (part separators rest).1, (part separators rest).2) := by
  rw [part, if_pos separator]

/-- What is no separator stands for itself, unless it is a backslash before one. -/
lemma part_literal {separators : List Char} {c : Char} (literal : separators.contains c = false)
    {rest : List Char} (free : c = '\\' → ∀ d ∈ rest.head?, separators.contains d = false) :
    part separators (c :: rest) = (c :: (part separators rest).1, (part separators rest).2) := by
  cases rest with
  | nil =>
    rw [part.eq_2 _ _ _ (fun _ _ _ second => List.cons_ne_nil _ _ second.symm), literal]
    rfl
  | cons d rest =>
    by_cases backslash : c = '\\'
    · subst backslash
      rw [part, free rfl d rfl]
      rfl
    · rw [part.eq_2 _ _ _ (fun _ _ first _ => backslash first), literal]
      rfl

/-- What is left behind a part: nothing, or something from a separator on. -/
def Stops (separators rest : List Char) : Prop :=
  ∀ c ∈ rest.head?, separators.contains c ∧ c ≠ '\\'

/-- Where a part stops, it is empty. -/
lemma part_of_stops {separators rest : List Char} (stops : Stops separators rest) :
    part separators rest = ([], rest) := by
  cases rest with
  | nil => rfl
  | cons c rest => exact part_separator (stops c rfl).1 (stops c rfl).2 rest

/-- An escaped text is read back, unless it ends in a backslash. -/
theorem part_escaped_append {special : List Char} (plain : special.contains '\\' = false)
    {s rest : List Char} (ends : s.getLast? ≠ some '\\') (stops : Stops special rest) :
    part special (escaped special s ++ rest) = (s, rest) := by
  -- by induction on the text; how a backslash is read depends on the character behind it only
  induction s with
  | nil => exact part_of_stops stops
  | cons c s ih =>
    have tail : s.getLast? ≠ some '\\' := by
      cases s with
      | nil => exact nofun
      | cons d s => rwa [List.getLast?_cons_cons] at ends
    rw [escaped_cons]
    cases is : special.contains c with
    | true =>
      rw [if_pos rfl, List.cons_append, List.cons_append, part_escaped is, ih tail]
    | false =>
      -- a backslash is not the last character, and what is written behind it is not special
      have free : c = '\\' →
          ∀ d ∈ (escaped special s ++ rest).head?, special.contains d = false := by
        rintro rfl d head
        cases s with
        | nil => exact absurd rfl ends
        | cons e s =>
          rw [escaped_cons] at head
          cases next : special.contains e with
          | true =>
            rw [if_pos next] at head
            cases head
            exact plain
          | false =>
            rw [if_neg (Bool.eq_false_iff.1 next)] at head
            cases head
            exact next
      rw [if_neg Bool.false_ne_true, List.cons_append, part_literal is free, ih tail]

/-! ## Keys and values -/

/-- A text that a line can hold: it has no end of line and does not end in a backslash. -/
structure Legible (s : String) : Prop where
  single : '\n' ∉ s.toList
  ends : s.toList.getLast? ≠ some '\\'

/-- A text that a key or value of a line can be, which is not empty. -/
structure Part (s : String) : Prop extends Legible s where
  ne_empty : s ≠ ""

instance (s : String) : Decidable (Legible s) :=
  decidable_of_iff ('\n' ∉ s.toList ∧ s.toList.getLast? ≠ some '\\')
    ⟨fun ⟨single, ends⟩ => ⟨single, ends⟩, fun ⟨single, ends⟩ => ⟨single, ends⟩⟩

instance (s : String) : Decidable (Part s) :=
  decidable_of_iff (Legible s ∧ s ≠ "")
    ⟨fun ⟨legible, ne⟩ => ⟨legible, ne⟩, fun ⟨legible, ne⟩ => ⟨legible, ne⟩⟩

/-- A key and a value as they are written. -/
def pairText (key value : String) : List Char :=
  escape tagSpecials key ++ '=' :: escape tagSpecials value

/-- A text that is not empty has characters. -/
lemma toList_ne_nil {s : String} (ne : s ≠ "") : s.toList ≠ [] :=
  fun empty => ne (String.toList_eq_nil_iff.1 empty)

/-- A part stops before a separator other than the backslash. -/
lemma stops_cons {special : List Char} {c : Char} (separator : special.contains c)
    (ne : c ≠ '\\') (rest : List Char) : Stops special (c :: rest) := by
  rintro d head
  cases head
  exact ⟨separator, ne⟩

/-- A pair is read back from its text, up to where it stops. -/
lemma pair?_pairText {key value : String} (keyed : Part key) (valued : Part value)
    {rest : List Char} (stops : Stops tagSpecials rest) :
    pair? (pairText key value ++ rest) = some ⟨key, value, rest⟩ := by
  have first : part [',', '=', ' '] (pairText key value ++ rest) =
      (key.toList, '=' :: (escaped tagSpecials value.toList ++ rest)) := by
    rw [pairText, List.append_assoc, escape_eq]
    exact part_escaped_append rfl keyed.ends (stops_cons rfl (by decide) _)
  have second : part [',', '=', ' '] (escaped tagSpecials value.toList ++ rest) =
      (value.toList, rest) := part_escaped_append rfl valued.ends stops
  rw [pair?, first]
  simp only
  rw [second]
  simp only [toList_ne_nil keyed.ne_empty, toList_ne_nil valued.ne_empty, or_self, if_false,
    String.ofList_toList]

/-- Tags are read back from their texts, up to the blank. -/
lemma tags?_text {tags : List Tag} (parts : ∀ t ∈ tags, Part t.key ∧ Part t.value)
    (rest : List Char) :
    tags? (tags.flatMap tagText ++ ' ' :: rest) = some (tags, ' ' :: rest) := by
  induction tags with
  | nil =>
    rw [List.flatMap_nil, List.nil_append, tags?]
    exact nofun
  | cons t tags ih =>
    obtain ⟨⟨key, value⟩, parts⟩ := List.forall_mem_cons.1 parts
    -- behind a tag stands the comma of the next one, or the space behind them all
    have stops : Stops tagSpecials (tags.flatMap tagText ++ ' ' :: rest) := by
      cases tags with
      | nil => exact stops_cons rfl (by decide) _
      | cons t' tags => exact stops_cons rfl (by decide) _
    have split : (t :: tags).flatMap tagText ++ ' ' :: rest =
        ',' :: (pairText t.key t.value ++ (tags.flatMap tagText ++ ' ' :: rest)) := by
      rw [List.flatMap_cons, List.append_assoc]
      rfl
    rw [split, tags?_of_pair (pair?_pairText key value stops), ih parts]
    rfl

/-- Fields are read back in front of a space or the end. -/
lemma fields?_text {fields : List (String × String)} (some_ : fields ≠ [])
    (parts : ∀ f ∈ fields, Part f.1 ∧ Part f.2) {rest : List Char}
    (ends : ∀ c ∈ rest.head?, c = ' ') :
    fields? ([','].intercalate (fields.map fun f => pairText f.1 f.2) ++ rest) =
      some (fields, rest) := by
  induction fields with
  | nil => exact absurd rfl some_
  | cons f fields ih =>
    obtain ⟨⟨key, value⟩, parts⟩ := List.forall_mem_cons.1 parts
    cases fields with
    | nil =>
      have stops : Stops tagSpecials rest := by
        intro c head
        rw [ends c head]
        decide
      have last : pair? (pairText f.1 f.2 ++ rest) = some ⟨f.1, f.2, rest⟩ :=
        pair?_pairText key value stops
      rw [List.map_singleton, List.intercalate_singleton]
      exact fields?_of_end last fun comma => absurd (ends ',' comma) (by decide)
    | cons f' fields =>
      have filled : (f' :: fields).map (fun f => pairText f.1 f.2) ≠ [] := List.cons_ne_nil _ _
      have split : [','].intercalate ((f :: f' :: fields).map fun f => pairText f.1 f.2) ++ rest =
          pairText f.1 f.2 ++ ',' ::
            ([','].intercalate ((f' :: fields).map fun f => pairText f.1 f.2) ++ rest) := by
        rw [List.map_cons, List.intercalate_cons_of_ne_nil filled, List.append_assoc,
          List.append_assoc]
        rfl
      have first (s : List Char) :
          pair? (pairText f.1 f.2 ++ ',' :: s) = some ⟨f.1, f.2, ',' :: s⟩ :=
        pair?_pairText key value (stops_cons rfl (by decide) _)
      rw [split, fields?_of_comma (first _), ih (List.cons_ne_nil _ _) parts]
      rfl

/-! ## Points -/

/-- A point that a line can hold. -/
structure Point.Legible (p : Point) : Prop where
  measurement : Part p.measurement
  tags : ∀ t ∈ p.tags, Part t.key ∧ Part t.value
  some_ : p.fields ≠ []
  fields : ∀ f ∈ p.fields, Part f.1 ∧ Part f.2

/-- The end of a line. -/
def timestampText : Option Int → List Char
  | none => []
  | some timestamp => ' ' :: Number.intText timestamp

/-- A timestamp is read back from its text, and so is its absence. -/
lemma timestamp?_text (timestamp : Option Int) :
    timestamp? (timestampText timestamp) = some timestamp := by
  cases timestamp with
  | none => rfl
  | some t => rw [timestampText, timestamp?, Number.int?_intText, Option.map_some]

/-- A point as it is written. -/
def Point.text (p : Point) : List Char :=
  escape nameSpecials p.measurement ++ p.tags.flatMap tagText ++
    ' ' :: [','].intercalate (p.fields.map fun f => pairText f.1 f.2) ++
    timestampText p.timestamp

/-- A point is read back. -/
theorem point?_text {p : Point} (legible : p.Legible) : point? p.text = some p := by
  obtain ⟨measurement, tags, fields, timestamp⟩ := p
  obtain ⟨named, tagged, some_, parts⟩ := legible
  have ends : ∀ c ∈ (timestampText timestamp).head?, c = ' ' := by
    cases timestamp with
    | none => exact nofun
    | some t => rintro c ⟨⟩; rfl
  have stops (s : List Char) : Stops nameSpecials (tags.flatMap tagText ++ ' ' :: s) := by
    cases tags with
    | nil => exact stops_cons rfl (by decide) _
    | cons t tags => exact stops_cons rfl (by decide) _
  have split : Point.text ⟨measurement, tags, fields, timestamp⟩ =
      escaped nameSpecials measurement.toList ++ (tags.flatMap tagText ++ ' ' ::
        ([','].intercalate (fields.map fun f => pairText f.1 f.2) ++ timestampText timestamp)) := by
    rw [Point.text, escape_eq]
    simp only [List.append_assoc, List.cons_append]
  have name (s : List Char) :
      part [',', ' '] (escaped nameSpecials measurement.toList ++ (tags.flatMap tagText ++ ' ' :: s)) =
        (measurement.toList, tags.flatMap tagText ++ ' ' :: s) :=
    part_escaped_append rfl named.ends (stops s)
  rw [split, point?, name]
  simp only [tags?_text tagged, fields?_text some_ parts ends, timestamp?_text,
    Option.bind_eq_bind, Option.bind_some, toList_ne_nil named.ne_empty, if_false,
    String.ofList_toList]

/-- Escaping adds nothing but backslashes. -/
lemma mem_of_mem_escape {special : List Char} {s : String} {c : Char}
    (mem : c ∈ escape special s) : c = '\\' ∨ c ∈ s.toList := by
  obtain ⟨d, of_text, mem⟩ := List.mem_flatMap.1 mem
  split at mem
  · rcases List.mem_cons.1 mem with backslash | same
    · exact .inl backslash
    · exact .inr (List.mem_singleton.1 same ▸ of_text)
  · exact .inr (List.mem_singleton.1 mem ▸ of_text)

/-- Escaping breaks no line. -/
lemma single_escape {special : List Char} {s : String} (single : '\n' ∉ s.toList) :
    '\n' ∉ escape special s := by
  intro mem
  rcases mem_of_mem_escape mem with backslash | newline
  · cases backslash
  · exact single newline

/-- A pair of single parts stands on one line. -/
lemma single_pairText {key value : String} (keyed : Part key) (valued : Part value) :
    '\n' ∉ pairText key value := by
  rw [pairText, List.mem_append, List.mem_cons]
  rintro (of_key | equals | of_value)
  · exact single_escape keyed.single of_key
  · cases equals
  · exact single_escape valued.single of_value

/-- What stands in joined texts is the separator or stands in one of them. -/
lemma mem_of_mem_intercalate {α : Type} {sep x : α} {xs : List (List α)}
    (mem : x ∈ [sep].intercalate xs) : x = sep ∨ ∃ l ∈ xs, x ∈ l := by
  induction xs with
  | nil => cases mem
  | cons l xs ih =>
    cases xs with
    | nil =>
      rw [List.intercalate_singleton] at mem
      exact .inr ⟨l, List.mem_cons_self .., mem⟩
    | cons l' xs =>
      rw [List.intercalate_cons_of_ne_nil (List.cons_ne_nil _ _), List.mem_append,
        List.mem_append] at mem
      rcases mem with (of_first | of_sep) | of_rest
      · exact .inr ⟨l, List.mem_cons_self .., of_first⟩
      · exact .inl (List.mem_singleton.1 of_sep)
      · rcases ih of_rest with same | ⟨l'', mem, of_later⟩
        · exact .inl same
        · exact .inr ⟨l'', List.mem_cons_of_mem _ mem, of_later⟩

/-- A timestamp breaks no line. -/
lemma single_timestampText (timestamp : Option Int) : '\n' ∉ timestampText timestamp := by
  cases timestamp with
  | none => exact nofun
  | some t =>
    rw [timestampText, List.mem_cons]
    rintro (space | numeral)
    · cases space
    · exact absurd (Number.isNumeral_of_mem_intText numeral) (by decide)

/-- A point takes one line. -/
lemma single_text {p : Point} (legible : p.Legible) : '\n' ∉ p.text := by
  obtain ⟨named, tagged, -, parts⟩ := legible
  rw [Point.text, List.mem_append, List.mem_append, List.mem_append, List.mem_cons]
  rintro (((of_name | of_tags) | space | of_fields) | of_timestamp)
  · exact single_escape named.single of_name
  · obtain ⟨t, mem, of_tag⟩ := List.mem_flatMap.1 of_tags
    rcases List.mem_cons.1 of_tag with comma | of_pair
    · cases comma
    · exact single_pairText (tagged t mem).1 (tagged t mem).2 of_pair
  · cases space
  · rcases mem_of_mem_intercalate of_fields with comma | ⟨text, mem, of_field⟩
    · cases comma
    · obtain ⟨f, of_point, rfl⟩ := List.mem_map.1 mem
      exact single_pairText (parts f of_point).1 (parts f of_point).2 of_field
  · exact single_timestampText _ of_timestamp

/-! ## Lines -/

/-- An identity that a line can hold: neither the name nor a key is empty. -/
structure LegibleId (id : MeterId) : Prop where
  name : Part id.name
  key : ∀ t ∈ id.tags, Part t.key
  value : ∀ t ∈ id.tags, Legible t.value

instance (id : MeterId) : Decidable (LegibleId id) :=
  decidable_of_iff
    (Part id.name ∧ (∀ t ∈ id.tags, Part t.key) ∧ ∀ t ∈ id.tags, Legible t.value)
    ⟨fun ⟨name, key, value⟩ => ⟨name, key, value⟩, fun ⟨name, key, value⟩ => ⟨name, key, value⟩⟩

/-- What the line of an instrument says about how to read its fields. -/
def metricType {α : Type} : Instrument α → String
  | .counter _ => "counter"
  | .gauge _ => "gauge"
  | .timer _ => "histogram"
  | .summary _ => "histogram"

/-- A number of nanoseconds as milliseconds. -/
def inMillis (nanos : UInt64) : Float :=
  nanos.toFloat / 1000000

/-- The values of an instrument under the names of their fields. -/
def values : Instrument Float → List (String × Float)
  | .counter value => [("value", value)]
  | .gauge value => [("value", value)]
  | .timer ⟨count, total, longest⟩ =>
    [("count", count.toFloat), ("sum", inMillis total),
     ("mean", inMillis (if count = 0 then 0 else total / min count 0xFFFFFFFF)),
     ("upper", inMillis longest)]
  | .summary ⟨count, total, largest⟩ =>
    [("count", count.toFloat), ("sum", total),
     ("mean", if count = 0 then 0 else total / count.toFloat), ("upper", largest)]

/-- The values of an instrument that a line can hold. -/
def finiteValues (i : Instrument Float) : List (String × Float) :=
  (values i).filter fun v => v.2.isFinite

/-- The point of a meter: its name, the tags that have a value and the type, and the values that are
finite. -/
def Point.of (timestamp : Int) (m : Meter Float) : Point where
  measurement := m.id.name
  tags := m.id.tags.filter (·.value ≠ "") ++ [⟨"metric_type", metricType m.instrument⟩]
  fields := (finiteValues m.instrument).map fun v => (v.1, String.ofList (Number.text v.2))
  timestamp := some timestamp

/-- Every kind of instrument is written with the type that it has. -/
lemma typeText_kind {α : Type} (i : Instrument α) : typeText i.kind = metricType i := by
  cases i <;> rfl

/-- The fields of a line are the values of the instrument that are finite. -/
lemma finiteFields_eq (i : Instrument Float) : finiteFields i = finiteValues i := by
  cases i <;> rfl

/-- Numerals make up a part. -/
lemma part_of_numerals {s : List Char} (ne : s ≠ [])
    (numerals : ∀ c ∈ s, Number.isNumeral c) : Part (String.ofList s) where
  single := by
    rw [String.toList_ofList]
    intro mem
    exact absurd (numerals _ mem) (by decide)
  ends := by
    rw [String.toList_ofList]
    intro last
    exact absurd (numerals _ (List.mem_of_getLast? last)) (by decide)
  ne_empty empty := ne (by rw [← String.toList_ofList (l := s), empty]; rfl)

/-- The tag of the type has a key and a value. -/
lemma part_type {α : Type} (i : Instrument α) : Part "metric_type" ∧ Part (metricType i) := by
  rw [← typeText_kind]
  cases i.kind <;> decide

/-- The text of a number is a part. -/
lemma part_text (x : Float) : Part (String.ofList (Number.text x)) :=
  part_of_numerals (Number.text_ne_nil x) fun _ mem => Number.isNumeral_of_mem_text mem

/-- Numerals need no escaping. -/
lemma escaped_of_numerals {s : List Char} (numerals : ∀ c ∈ s, Number.isNumeral c) :
    escaped tagSpecials s = s := by
  have apart : ∀ c ∈ tagSpecials, ¬ Number.isNumeral c := List.any_eq_false.1 (by decide)
  refine escaped_eq_self fun c mem => Bool.eq_false_iff.2 fun special => ?_
  exact apart c (List.contains_iff_mem.1 special) (numerals c mem)

/-- The names of the values of some instrument. -/
lemma name_of_mem_values {i : Instrument Float} {v : String × Float} (mem : v ∈ values i) :
    v.1 ∈ ["value", "count", "sum", "mean", "upper"] := by
  have names : (values i).map Prod.fst ⊆ ["value", "count", "sum", "mean", "upper"] := by
    cases i <;> simp [values]
  exact names (List.mem_map_of_mem mem)

/-- The name of a value is a part, and written as it is. -/
lemma part_name {i : Instrument Float} {v : String × Float} (mem : v ∈ values i) :
    Part v.1 ∧ escape tagSpecials v.1 = v.1.toList := by
  have all : ∀ name ∈ ["value", "count", "sum", "mean", "upper"],
      Part name ∧ escape tagSpecials name = name.toList := by
    decide
  exact all v.1 (name_of_mem_values mem)

/-- The finite fields are among the fields. -/
lemma mem_values {i : Instrument Float} {v : String × Float} (mem : v ∈ finiteValues i) :
    v ∈ values i :=
  (List.mem_filter.1 mem).1

/-- A field is written as a key and a value. -/
lemma fieldText_eq {i : Instrument Float} {v : String × Float} (mem : v ∈ values i) :
    fieldText v = pairText v.1 (String.ofList (Number.text v.2)) := by
  have value : escape tagSpecials (String.ofList (Number.text v.2)) = Number.text v.2 := by
    rw [escape_eq, String.toList_ofList]
    exact escaped_of_numerals fun _ mem => Number.isNumeral_of_mem_text mem
  rw [fieldText, pairText, (part_name mem).2, value]
  rfl

/-- The name and the tags of a line, the type behind those that have a value. -/
lemma seriesText_eq {α : Type} (id : MeterId) (i : Instrument α) :
    seriesText id i.kind = escape nameSpecials id.name ++
      (id.tags.filter (·.value ≠ "") ++ [⟨"metric_type", metricType i⟩] : List Tag).flatMap
        tagText := by
  have type : tagText ⟨"metric_type", metricType i⟩ =
      ',' :: typeKey.toList ++ '=' :: (typeText i.kind).toList := by
    rw [← typeText_kind]
    cases i.kind <;> decide
  rw [seriesText, List.flatMap_append, List.flatMap_singleton, type, List.append_assoc,
    List.append_assoc]

/-- The line of a meter is the text of its point, if that has a field. -/
lemma line?_eq (timestamp : Int) (m : Meter Float) :
    line? timestamp m =
      if finiteValues m.instrument = [] then none else some (Point.of timestamp m).text := by
  have fields_eq : (finiteValues m.instrument).map fieldText =
      (Point.of timestamp m).fields.map fun f => pairText f.1 f.2 := by
    rw [Point.of, List.map_map]
    exact List.map_congr_left fun v mem => fieldText_eq (mem_values mem)
  rw [line?, finiteFields_eq]
  split
  case h_1 none_ => rw [if_pos none_]
  case h_2 some_ =>
    rw [if_neg some_, seriesText_eq, fields_eq]
    rfl

/-- A line can hold the point of a meter if it can hold its identity. -/
lemma legible_of {m : Meter Float} (legible : LegibleId m.id)
    (some_ : finiteValues m.instrument ≠ []) (timestamp : Int) :
    (Point.of timestamp m).Legible where
  measurement := legible.name
  tags t mem := by
    rcases List.mem_append.1 mem with of_id | type
    · obtain ⟨of_id, value⟩ := List.mem_filter.1 of_id
      exact ⟨legible.key t of_id, legible.value t of_id, of_decide_eq_true value⟩
    · rw [List.mem_singleton.1 type]
      exact part_type m.instrument
  some_ none_ := some_ (List.map_eq_nil_iff.1 none_)
  fields f mem := by
    obtain ⟨v, finite, rfl⟩ := List.mem_map.1 mem
    exact ⟨(part_name (mem_values finite)).1, part_text v.2⟩

/-- There is always something to write about a timer or summary: its count. -/
lemma finiteValues_eq_nil_iff {i : Instrument Float} :
    finiteValues i = [] ↔
      ∃ value, (i = .counter value ∨ i = .gauge value) ∧ value.isFinite = false := by
  have count (n : UInt64) : n.toFloat.isFinite = true := Number.isFinite_ofCount n
  cases i with
  | counter value => simp [finiteValues, values]
  | gauge value => simp [finiteValues, values]
  | timer t => simp [finiteValues, values, count]
  | summary s => simp [finiteValues, values, count]

/-- A line is read as the point of its meter. It is withheld for a counter or gauge that is not
finite, and only then. -/
theorem point?_line {m : Meter Float} (legible : LegibleId m.id) (timestamp : Int) :
    (∀ line, line? timestamp m = some line →
      '\n' ∉ line ∧ point? line = some (Point.of timestamp m)) ∧
    (line? timestamp m = none ↔ ∃ value,
      (m.instrument = .counter value ∨ m.instrument = .gauge value) ∧
        value.isFinite = false) := by
  rw [line?_eq]
  constructor
  · intro line written
    split at written
    · cases written
    · rename_i some_
      cases written
      have point := legible_of legible some_ timestamp
      exact ⟨single_text point, point?_text point⟩
  · rw [← finiteValues_eq_nil_iff]
    split
    case isTrue none_ => exact iff_of_true rfl none_
    case isFalse some_ => exact iff_of_false (Option.some_ne_none _) some_

/-- A comma with a backslash before it is read back, and a tag without a value is not there. -/
theorem point?_line_of_backslash :
    let id : MeterId := ⟨"a b", [⟨"k=", "x\\,y"⟩, ⟨"local", ""⟩]⟩
    let m : Meter Float := ⟨id, "", .gauge 1⟩
    LegibleId id ∧
      line? 7 m = some "a\\ b,k\\==x\\\\,y,metric_type=gauge value=1 7".toList ∧
      ∀ line, line? 7 m = some line → point? line = some
        ⟨"a b", [⟨"k=", "x\\,y"⟩, ⟨"metric_type", "gauge"⟩], [("value", "1")], some 7⟩ := by
  intro id m
  have legible : LegibleId id := by decide
  have point : Point.of 7 m =
      ⟨"a b", [⟨"k=", "x\\,y"⟩, ⟨"metric_type", "gauge"⟩], [("value", "1")], some 7⟩ := by
    decide +kernel
  refine ⟨legible, by decide +kernel, fun line written => ?_⟩
  rw [← point]
  exact ((point?_line (m := m) legible 7).1 line written).2

end Metering.Influx
