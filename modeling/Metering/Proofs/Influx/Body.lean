import Mathlib.Data.Finset.Dedup
import Mathlib.Data.Finset.Insert
import Metering.Influx.Writer
import Metering.Proofs.Influx.Grammar

/-!
# Bodies of writes

A reader for bodies (`points?`), which are made of lines. The body that is posted for some meters is
read as one point for each meter that is written. Points of one time are told apart by their series,
the name and the set of tags. Two meters have points of one series exactly if they agree in the
name, the tags that have a value, and the type (`points_of_body`). So a meter with a tag that has no
value shares the series of one without the tag, while meters with the same keys share none.
-/

namespace Metering.Influx

/-! ## Reading bodies -/

/-- Reads the points of a body, each on a line of its own. Empty lines say nothing. -/
def points? (body : List Char) : Option (List Point) :=
  ((body.splitOn '\n').filter (· ≠ [])).mapM point?

/-- A line has text. -/
lemma text_ne_nil (p : Point) : p.text ≠ [] :=
  List.append_ne_nil_of_left_ne_nil
    (List.append_ne_nil_of_right_ne_nil _ (List.cons_ne_nil _ _)) _

/-- Legible lines are read one by one. -/
lemma mapM_point? {points : List Point} (legible : ∀ p ∈ points, p.Legible) :
    (points.map Point.text).mapM point? = some points := by
  induction points with
  | nil => rfl
  | cons p points ih =>
    obtain ⟨first, rest⟩ := List.forall_mem_cons.1 legible
    rw [List.map_cons, List.mapM_cons, point?_text first, ih rest]
    rfl

/-- A body of legible lines is read as the points it was written from. -/
theorem points?_text {points : List Point} (legible : ∀ p ∈ points, p.Legible) :
    points? (['\n'].intercalate (points.map Point.text)) = some points := by
  have single : ∀ line ∈ points.map Point.text, '\n' ∉ line := by
    intro line mem
    obtain ⟨p, of_points, rfl⟩ := List.mem_map.1 mem
    exact single_text (legible p of_points)
  have filled : (points.map Point.text).filter (· ≠ []) = points.map Point.text := by
    refine List.filter_eq_self.2 fun line mem => ?_
    obtain ⟨p, -, rfl⟩ := List.mem_map.1 mem
    exact decide_eq_true (text_ne_nil p)
  cases points with
  | nil => rfl -- an empty body has one line, which is empty
  | cons p points =>
    rw [points?, List.splitOn_intercalate _ single (List.cons_ne_nil _ _), filled]
    exact mapM_point? legible

/-! ## Bodies of meters -/

/-- The meters that have something to write. -/
def written (meters : List (Meter Float)) : List (Meter Float) :=
  meters.filter fun m => finiteValues m.instrument ≠ []

/-- The lines are the texts of the points of the written meters. -/
lemma lines_eq (timestamp : Int) (meters : List (Meter Float)) :
    lines timestamp meters =
      (((written meters).map (Point.of timestamp)).map Point.text).map String.ofList := by
  rw [lines]
  congr 1
  induction meters with
  | nil => rfl
  | cons m meters ih =>
    by_cases none_ : finiteValues m.instrument = []
    · have withheld : line? timestamp m = none := by rw [line?_eq, if_pos none_]
      have skipped : written (m :: meters) = written meters :=
        List.filter_cons_of_neg (by simpa using none_)
      rw [List.filterMap_cons_none withheld, skipped, ih]
    · have line : line? timestamp m = some (Point.of timestamp m).text := by
        rw [line?_eq, if_neg none_]
      have kept : written (m :: meters) = m :: written meters :=
        List.filter_cons_of_pos (by simpa using none_)
      rw [List.filterMap_cons_some line, kept, ih]
      rfl

/-- Every written meter has its own line. -/
lemma length_lines (timestamp : Int) (meters : List (Meter Float)) :
    (lines timestamp meters).length = (written meters).length := by
  rw [lines_eq]
  simp only [List.length_map]

/-- The body joins the lines with line ends. -/
lemma body_toList (w : Writer) (texts : List (List Char)) :
    (w.writeRequest (texts.map String.ofList)).body.toList = ['\n'].intercalate texts := by
  have toList_ofList : String.toList ∘ String.ofList = id := funext fun _ => String.toList_ofList
  rw [Writer.writeRequest, String.toList_intercalate, List.map_map, toList_ofList, List.map_id]
  rfl

/-- The body is read as one point for each written meter. -/
lemma points?_body (w : Writer) {meters : List (Meter Float)}
    (legible : ∀ m ∈ meters, LegibleId m.id) (timestamp : Int) :
    points? (w.writeRequest (lines timestamp meters)).body.toList =
      some ((written meters).map (Point.of timestamp)) := by
  rw [lines_eq, body_toList]
  refine points?_text fun p mem => ?_
  obtain ⟨m, of_written, rfl⟩ := List.mem_map.1 mem
  obtain ⟨of_meters, some_⟩ := List.mem_filter.1 of_written
  exact legible_of (legible m of_meters) (of_decide_eq_true some_) timestamp

/-! ## Series -/

/-- What keeps points of one time apart: the name and the set of tags. -/
structure Series where
  measurement : String
  tags : Finset Tag
  deriving DecidableEq

/-- The series of a point. -/
def Point.series (p : Point) : Series :=
  ⟨p.measurement, p.tags.toFinset⟩

variable {α : Type}

/-- The series that a meter belongs to. -/
def seriesOf (m : Meter α) : Series where
  measurement := m.id.name
  tags := insert ⟨"metric_type", metricType m.instrument⟩
    (m.id.tags.filter (·.value ≠ "")).toFinset

/-- The series of a meter's point can be told from the meter alone. -/
lemma series_of (timestamp : Int) (m : Meter Float) :
    (Point.of timestamp m).series = seriesOf m := by
  rw [Point.series, seriesOf]
  congr 1
  ext t
  rw [List.mem_toFinset, Finset.mem_insert, List.mem_toFinset, Point.of, List.mem_append,
    List.mem_singleton, or_comm]

/-! ## Identities -/

/-- The tags behind a new one are those with another key. -/
lemma mem_iff_of_new {t u : Tag} {tags : List Tag} (new : t.key ∉ tags.map Tag.key) :
    u ∈ tags ↔ u ∈ t :: tags ∧ u.key ≠ t.key := by
  rw [List.mem_cons]
  constructor
  · intro mem
    exact ⟨.inr mem, fun same => new (same ▸ List.mem_map_of_mem mem)⟩
  · rintro ⟨rfl | mem, ne⟩
    · exact absurd rfl ne
    · exact mem

/-- Only a new tag itself has its key. -/
lemma eq_of_new {t u : Tag} {tags : List Tag} (new : t.key ∉ tags.map Tag.key)
    (key : u.key = t.key) (mem : u ∈ t :: tags) : u = t := by
  rcases List.mem_cons.1 mem with same | mem
  · exact same
  · exact absurd key ((mem_iff_of_new new).1 mem).2

/-- Lists of tags with the same keys are told apart by the tags that have a value. -/
lemma tags_eq_of_keys {tags tags' : List Tag} (keys : tags.map Tag.key = tags'.map Tag.key)
    (nodup : (tags.map Tag.key).Nodup)
    (same : ∀ t : Tag, t.value ≠ "" → (t ∈ tags ↔ t ∈ tags')) : tags = tags' := by
  -- both lists have the first key in front and nowhere else, so what is shared under it is in front
  induction tags generalizing tags' with
  | nil => exact (List.map_eq_nil_iff.1 keys.symm).symm
  | cons t tags ih =>
    obtain ⟨t', tags', rfl, key, keys'⟩ := List.map_eq_cons_iff.1 keys.symm
    rw [List.map_cons, List.nodup_cons] at nodup
    obtain ⟨new, nodup⟩ := nodup
    have new' : t'.key ∉ tags'.map Tag.key := by rwa [key, keys']
    have first : t = t' := by
      by_cases value : t.value = ""
      · by_cases value' : t'.value = ""
        · obtain ⟨k, v⟩ := t
          obtain ⟨k', v'⟩ := t'
          cases key
          cases value
          cases value'
          rfl
        · exact (eq_of_new new key ((same t' value').2 (List.mem_cons_self ..))).symm
      · exact eq_of_new new' key.symm ((same t value).1 (List.mem_cons_self ..))
    subst first
    have rest : tags = tags' := ih keys'.symm nodup fun u value => by
      rw [mem_iff_of_new new, mem_iff_of_new new', same u value]
    rw [rest]

/-- Meters of one name have the same keys in the same order, none of them twice, and none of them is
that of the type. -/
structure KeyedAlike (meters : List (Meter α)) : Prop where
  nodup : ∀ m ∈ meters, (m.id.tags.map Tag.key).Nodup
  no_type : ∀ m ∈ meters, "metric_type" ∉ m.id.tags.map Tag.key
  same : ∀ m ∈ meters, ∀ m' ∈ meters, m.id.name = m'.id.name →
    m.id.tags.map Tag.key = m'.id.tags.map Tag.key

/-- A tag of the series of a meter that has a value is one of the meter, apart from the type. -/
lemma mem_tags_iff {m : Meter α} (no_type : "metric_type" ∉ m.id.tags.map Tag.key) {t : Tag}
    (value : t.value ≠ "") : t ∈ m.id.tags ↔ t ∈ (seriesOf m).tags ∧ t.key ≠ "metric_type" := by
  rw [seriesOf, Finset.mem_insert, List.mem_toFinset, List.mem_filter]
  constructor
  · intro mem
    exact ⟨.inr ⟨mem, decide_eq_true value⟩,
      fun key => no_type (key ▸ List.mem_map_of_mem mem)⟩
  · rintro ⟨rfl | ⟨mem, -⟩, ne⟩
    · exact absurd rfl ne
    · exact mem

/-- Where meters are keyed alike, a series has one identity. -/
lemma KeyedAlike.id_eq {meters : List (Meter α)} (keyed : KeyedAlike meters) {m m' : Meter α}
    (mem : m ∈ meters) (mem' : m' ∈ meters) (series : seriesOf m = seriesOf m') : m.id = m'.id := by
  have name : m.id.name = m'.id.name := congrArg Series.measurement series
  have tags : m.id.tags = m'.id.tags := by
    refine tags_eq_of_keys (keyed.same m mem m' mem' name) (keyed.nodup m mem) fun t value => ?_
    rw [mem_tags_iff (keyed.no_type m mem) value, mem_tags_iff (keyed.no_type m' mem') value,
      series]
  obtain ⟨⟨_, _⟩, _, _⟩ := m
  obtain ⟨⟨_, _⟩, _, _⟩ := m'
  cases name
  cases tags
  rfl

/-- Where meters are keyed alike, different identities make different series. -/
lemma KeyedAlike.apart {meters : List (Meter α)} (keyed : KeyedAlike meters)
    (nodup : (meters.map Meter.id).Nodup) :
    meters.Pairwise fun m m' => seriesOf m ≠ seriesOf m' :=
  (List.pairwise_map.1 nodup).imp_of_mem fun mem mem' ne series =>
    ne (keyed.id_eq mem mem' series)

/-! ## One point each -/

/-- A body that is read as so many points, no two of the same series. -/
def PointsApart (body : String) (count : Nat) : Prop :=
  ∃ points ∈ points? body.toList, points.length = count ∧
    points.Pairwise fun p q => p.series ≠ q.series

instance (body : String) (count : Nat) : Decidable (PointsApart body count) :=
  inferInstanceAs (Decidable (∃ points ∈ points? body.toList, _ ∧ _))

/-- The body for some meters is read as one point for each line, no two of the same series. -/
def OnePointEach (w : Writer) (timestamp : Int) (meters : List (Meter Float)) : Prop :=
  PointsApart (w.writeRequest (lines timestamp meters)).body (lines timestamp meters).length

/-- Points are kept apart exactly if the meters are. -/
lemma onePointEach_iff (w : Writer) {meters : List (Meter Float)}
    (legible : ∀ m ∈ meters, LegibleId m.id) (timestamp : Int) :
    OnePointEach w timestamp meters ↔
      (written meters).Pairwise fun m m' => seriesOf m ≠ seriesOf m' := by
  have read := points?_body w legible timestamp
  have series : ((written meters).map (Point.of timestamp)).Pairwise
        (fun p q => p.series ≠ q.series) ↔
      (written meters).Pairwise fun m m' => seriesOf m ≠ seriesOf m' := by
    simp only [List.pairwise_map, series_of]
  rw [← series]
  constructor
  · rintro ⟨points, read', -, apart⟩
    cases read.symm.trans read'
    exact apart
  · intro apart
    refine ⟨_, read, ?_, apart⟩
    rw [length_lines, List.length_map]

/-- A body is read as the points of the meters that are written, one on each line. The points are
of different series exactly if the meters are, and meters that are keyed alike are if their
identities differ. -/
theorem points_of_body (w : Writer) {meters : List (Meter Float)}
    (legible : ∀ m ∈ meters, LegibleId m.id) (timestamp : Int) :
    points? (w.writeRequest (lines timestamp meters)).body.toList =
      some ((written meters).map (Point.of timestamp)) ∧
    (lines timestamp meters).length = (written meters).length ∧
    (OnePointEach w timestamp meters ↔
      (written meters).Pairwise fun m m' => seriesOf m ≠ seriesOf m') ∧
    ((meters.map Meter.id).Nodup → KeyedAlike meters → OnePointEach w timestamp meters) := by
  have iff := onePointEach_iff w legible timestamp
  refine ⟨points?_body w legible timestamp, length_lines timestamp meters, iff, ?_⟩
  intro nodup keyed
  refine iff.2 ?_
  exact (keyed.apart nodup).sublist List.filter_sublist

/-- A meter whose tag has no value has a point of its own beside one whose tag has a value. -/
theorem points_of_body_of_empty_value :
    let gauge (tags : List Tag) (value : Float) : Meter Float := ⟨⟨"m", tags⟩, "", .gauge value⟩
    let meters := [gauge [⟨"a", ""⟩] 1, gauge [⟨"a", "b=\\,"⟩] 2]
    (∀ m ∈ meters, LegibleId m.id) ∧ (meters.map Meter.id).Nodup ∧ KeyedAlike meters ∧
      (∀ w, OnePointEach w 7 meters) ∧
      lines 7 meters = ["m,metric_type=gauge value=1 7",
        "m,a=b\\=\\\\,,metric_type=gauge value=2 7"] := by
  intro gauge meters
  have legible : ∀ m ∈ meters, LegibleId m.id := by decide
  have nodup : (meters.map Meter.id).Nodup := by decide
  have keyed : KeyedAlike meters := ⟨by decide, by decide, by decide⟩
  refine ⟨legible, nodup, keyed, fun w => ?_, by decide +kernel⟩
  exact (points_of_body w legible 7).2.2.2 nodup keyed

/-- Identities that differ in a tag without a value share a series. A line break in a text, or a
backslash at its end, makes a body that cannot be read, or one that is another's. -/
theorem not_onePointEach_of_texts :
    let gauge (name : String) (tags : List Tag) : Meter Float := ⟨⟨name, tags⟩, "", .gauge 1⟩
    let batches := [
      [gauge "m" [], gauge "m" [⟨"a", ""⟩]],
      [gauge "m\nn" []], [gauge "m" [⟨"a\nb", "x"⟩]], [gauge "m" [⟨"a", "x\ny"⟩]],
      [gauge "m\\" [⟨"a", "x"⟩], gauge "m,a=x" []],
      [gauge "m" [⟨"a\\", "x"⟩]], [gauge "m" [⟨"a", "x\\"⟩]]]
    ∀ meters ∈ batches, (meters.map Meter.id).Nodup ∧
      (∀ m ∈ meters, m.id.name ≠ "" ∧ ∀ t ∈ m.id.tags, t.key ≠ "") ∧
      ∀ w, ¬ OnePointEach w 7 meters := by
  intro gauge batches
  have named : ∀ meters ∈ batches, (meters.map Meter.id).Nodup ∧
      ∀ m ∈ meters, m.id.name ≠ "" ∧ ∀ t ∈ m.id.tags, t.key ≠ "" := by
    decide
  have spoiled : ∀ meters ∈ batches,
      ¬ PointsApart ("\n".intercalate (lines 7 meters)) (lines 7 meters).length := by
    decide +kernel
  intro meters mem
  exact ⟨(named meters mem).1, (named meters mem).2, fun _ => spoiled meters mem⟩

end Metering.Influx
