import Metering.Proofs.Exposition.Collision

/-!
# Exported names

The grammars of exported names and of label names, which differ in the colon, and what comes of any
name or key when its characters are replaced one by one (`sanitize_eq_iff`). Main statement:
`names_of_families`. What a name is exported as is in the grammar, with every ending of its kind,
where the name does not begin with a digit; so is a label name where its key neither begins with a
digit nor holds a colon. The label names of a series are different if and only if no two keys differ
in replaced characters only.
-/

namespace Metering.Exposition

/-! ## Grammars -/

/-- Whether a text has a first character of one class and further ones of another class. -/
def isWord (first further : Char → Bool) : List Char → Bool
  | [] => false
  | c :: s => first c && s.all further

/-- The grammar of label names: `[a-zA-Z_][a-zA-Z0-9_]*`. -/
def LabelName (s : String) : Prop :=
  isWord (fun c => c.isAlpha || c == '_') (fun c => c.isAlpha || c.isDigit || c == '_') s.toList

/-- The grammar of the names of families: `[a-zA-Z_:][a-zA-Z0-9_:]*`. -/
def FamilyName (s : String) : Prop :=
  isWord (fun c => c.isAlpha || c == '_' || c == ':')
    (fun c => c.isAlpha || c.isDigit || c == '_' || c == ':') s.toList

instance (s : String) : Decidable (LabelName s) := inferInstanceAs (Decidable (_ = true))

instance (s : String) : Decidable (FamilyName s) := inferInstanceAs (Decidable (_ = true))

/-- Whether a text has a beginning, and that is no digit. -/
def Begins (s : String) : Prop :=
  isWord (fun c => !c.isDigit) (fun _ => true) s.toList

instance (s : String) : Decidable (Begins s) := inferInstanceAs (Decidable (_ = true))

/-! ## Replaced characters -/

/-- What is put for a character. -/
def reduced (c : Char) : Char :=
  if isNameChar c then c else '_'

/-- Characters that are told apart no more once they are replaced. -/
def Meet (c d : Char) : Prop :=
  c = d ∨ (c = '_' ∨ isNameChar c = false) ∧ (d = '_' ∨ isNameChar d = false)

instance (c d : Char) : Decidable (Meet c d) := inferInstanceAs (Decidable (_ ∨ _ ∧ _))

/-- A name is made fit character by character. -/
lemma toList_sanitize (s : String) : (sanitize s).toList = s.toList.map reduced :=
  String.toList_ofList

/-- What a character is replaced by may stand in a name. -/
lemma isNameChar_reduced (c : Char) : isNameChar (reduced c) = true := by
  rw [reduced]
  split
  · next allowed => exact allowed
  · rfl

/-- A digit is put for digits only. -/
lemma isDigit_reduced {c : Char} (other : c.isDigit = false) : (reduced c).isDigit = false := by
  rw [reduced]
  split
  · exact other
  · rfl

/-- A colon is put for colons only. -/
lemma reduced_ne_colon {c : Char} (other : c ≠ ':') : reduced c ≠ ':' := by
  rw [reduced]
  split
  · exact other
  · decide

/-- Two characters become the same if and only if they meet. -/
lemma reduced_eq_iff (c d : Char) : reduced c = reduced d ↔ Meet c d := by
  have underscore : isNameChar '_' = true := rfl
  grind [reduced, Meet]

/-- Texts are reduced to the same if and only if their characters are, one by one. -/
lemma sanitize_eq_iff (s s' : String) :
    sanitize s = sanitize s' ↔ List.Forall₂ Meet s.toList s'.toList := by
  rw [← String.toList_inj, toList_sanitize, toList_sanitize]
  simp only [← List.forall₂_eq_eq_eq, List.forall₂_map_left_iff, List.forall₂_map_right_iff,
    reduced_eq_iff]

/-! ## What names are reduced to -/

/-- The characters of names are letters, digits, underscores and colons. -/
lemma isNameChar_eq (c : Char) :
    isNameChar c = (c.isAlpha || c.isDigit || c == '_' || c == ':') := by
  rw [isNameChar, Char.isAlphanum]

/-- A text that begins as a name has a first character, which is no digit. -/
lemma exists_cons_of_begins {s : String} (begins : Begins s) :
    ∃ c rest, s.toList = c :: rest ∧ c.isDigit = false := by
  rw [Begins] at begins
  cases split : s.toList with
  | nil =>
    rw [split] at begins
    exact nomatch begins
  | cons c rest =>
    rw [split, isWord, Bool.and_eq_true, Bool.not_eq_true'] at begins
    exact ⟨c, rest, rfl, begins.1⟩

/-- A name that does not begin with a digit is reduced to one of the grammar, which it is with any
ending as well. -/
lemma familyName_append {s ending : String} (begins : Begins s)
    (letters : ending.toList.all isNameChar = true) : FamilyName (sanitize s ++ ending) := by
  obtain ⟨c, rest, split, other⟩ := exists_cons_of_begins begins
  have text : (sanitize s ++ ending).toList =
      reduced c :: (rest.map reduced ++ ending.toList) := by
    rw [String.toList_append, toList_sanitize, split, List.map_cons, List.cons_append]
  have first := isNameChar_reduced c
  rw [isNameChar_eq, isDigit_reduced other, Bool.or_false] at first
  have further : (rest.map reduced ++ ending.toList).all isNameChar = true := by
    rw [List.all_append, letters, Bool.and_true, List.all_map, List.all_eq_true]
    exact fun d _ => isNameChar_reduced d
  rw [funext isNameChar_eq] at further
  rw [FamilyName, text, isWord, first, further]
  rfl

/-- A key without a colon that does not begin with a digit is reduced to a label name. -/
lemma labelName_sanitize {s : String} (begins : Begins s) (plain : ':' ∉ s.toList) :
    LabelName (sanitize s) := by
  obtain ⟨c, rest, split, other⟩ := exists_cons_of_begins begins
  have letter {d : Char} (mem : d ∈ s.toList) :
      ((reduced d).isAlpha || (reduced d).isDigit || reduced d == '_') = true := by
    have allowed := isNameChar_reduced d
    have colon := reduced_ne_colon (ne_of_mem_of_not_mem mem plain)
    rwa [isNameChar_eq, beq_eq_false_iff_ne.2 colon, Bool.or_false] at allowed
  rw [split] at letter
  have first := letter (List.mem_cons_self ..)
  rw [isDigit_reduced other, Bool.or_false] at first
  have further : (rest.map reduced).all
      (fun d => d.isAlpha || d.isDigit || d == '_') = true := by
    rw [List.all_map, List.all_eq_true]
    exact fun d mem => letter (List.mem_cons_of_mem c mem)
  rw [LabelName, toList_sanitize, split, List.map_cons, isWord, first, further]
  rfl

/-! ## What is exported -/

variable {α : Type}

/-- Families in which all names are in their grammars, and no label stands twice. -/
structure Legal (fs : List (MetricFamily α)) : Prop where
  family : ∀ f ∈ fs, FamilyName f.name
  label : ∀ f ∈ fs, ∀ s ∈ f.series, ∀ l ∈ s.labels, LabelName l.key
  different : ∀ f ∈ fs, ∀ s ∈ f.series, (s.labels.map Tag.key).Nodup

/-- Meters whose names are reduced to legal ones. -/
structure Fit (m : Meter α) : Prop where
  name : Begins m.id.name
  keys : ∀ t ∈ m.id.tags, Begins t.key ∧ ':' ∉ t.key.toList
  apart : m.id.tags.Pairwise fun t t' => ¬ List.Forall₂ Meet t.key.toList t'.key.toList

/-- The names under which a meter is exported, that of a family and those of labels. -/
structure Named (m : Meter α) (name : String) (exported : List Tag) : Prop where
  family : Begins m.id.name → FamilyName name
  labels : exported = m.id.tags.map fun t => ⟨sanitize t.key, t.value⟩
  label : ∀ t ∈ m.id.tags, Begins t.key → ':' ∉ t.key.toList → LabelName (sanitize t.key)
  different : (exported.map Tag.key).Nodup ↔
    m.id.tags.Pairwise fun t t' => ¬ List.Forall₂ Meet t.key.toList t'.key.toList

variable [Amount α]

/-- Every contribution is under the name of its meter, with an ending. -/
lemma exists_ending {m : Meter α} {c : Contribution α} (mem : c ∈ contributions m) :
    ∃ ending ∈ endingTexts, c.name = sanitize m.id.name ++ ending := by
  have all : ∀ c ∈ contributions m, ∃ ending ∈ endingTexts,
      c.name = sanitize m.id.name ++ ending := by
    rw [contributions]
    cases m.instrument with
    | counter value =>
      simp only [List.forall_mem_singleton, counterName]
      split
      · exact ⟨"", by decide, String.append_empty.symm⟩
      · exact ⟨"_total", by decide, rfl⟩
    | gauge value =>
      rw [List.forall_mem_singleton]
      exact ⟨"", by decide, String.append_empty.symm⟩
    | timer t =>
      exact List.forall_mem_cons.2 ⟨⟨"_seconds", by decide, rfl⟩,
        List.forall_mem_singleton.2 ⟨"_seconds_max", by decide, rfl⟩⟩
    | summary s =>
      exact List.forall_mem_cons.2 ⟨⟨"", by decide, String.append_empty.symm⟩,
        List.forall_mem_singleton.2 ⟨"_max", by decide, rfl⟩⟩
  exact all c mem

/-- What a meter contributes is named as it should be. -/
lemma named_of_contribution {m : Meter α} {c : Contribution α} (mem : c ∈ contributions m) :
    Named m c.name c.series.labels := by
  have labels : c.series.labels = m.id.tags.map fun t => ⟨sanitize t.key, t.value⟩ :=
    labels_of_contribution mem
  constructor
  case labels => exact labels
  case family =>
    intro begins
    obtain ⟨ending, listed, name⟩ := exists_ending mem
    have letters : ∀ ending ∈ endingTexts, ending.toList.all isNameChar = true := by
      decide +kernel
    rw [name]
    exact familyName_append begins (letters ending listed)
  case label => exact fun t _ => labelName_sanitize
  case different =>
    rw [labels, List.map_map, List.Nodup, List.pairwise_map]
    simp only [Function.comp_apply, ne_eq, sanitize_eq_iff]

/-- Every meter is exported, and nothing else is: under the name of a family that is legal if the name
of the meter does not begin with a digit, and with labels of which each is legal if its key neither
begins with a digit nor holds a colon, and none stands twice exactly if no two keys differ in
replaced characters only. So all names of fit meters are legal. -/
theorem names_of_families (meters : List (Meter α)) :
    (∀ m ∈ meters, ∀ c ∈ contributions m, ∃ f ∈ families meters,
      f.name = c.name ∧ c.series ∈ f.series ∧ Named m f.name c.series.labels) ∧
    (∀ f ∈ families meters, f.series ≠ [] ∧ ∀ s ∈ f.series, ∃ m ∈ meters, ∃ c ∈ contributions m,
      f.name = c.name ∧ s = c.series ∧ Named m f.name s.labels) ∧
    ((∀ m ∈ meters, Fit m) → Legal (families meters)) := by
  have groups := groups_families meters
  have exported : ∀ m ∈ meters, ∀ c ∈ contributions m, ∃ f ∈ families meters,
      f.name = c.name ∧ c.series ∈ f.series ∧ Named m f.name c.series.labels := by
    intro m mem c contributed
    have listed : c ∈ meters.flatMap contributions := List.mem_flatMap.2 ⟨m, mem, contributed⟩
    obtain ⟨f, grouped, name⟩ := groups.named listed
    have shown := (groups.mem_series grouped).2 ⟨c, listed, name.symm, rfl⟩
    exact ⟨f, grouped, name, shown, name ▸ named_of_contribution contributed⟩
  have stems : ∀ f ∈ families meters, ∀ s ∈ f.series, ∃ m ∈ meters, ∃ c ∈ contributions m,
      f.name = c.name ∧ s = c.series ∧ Named m f.name s.labels := by
    intro f mem s shown
    obtain ⟨c, listed, name, rfl⟩ := (groups.mem_series mem).1 shown
    obtain ⟨m, mem', contributed⟩ := List.mem_flatMap.1 listed
    exact ⟨m, mem', c, contributed, name.symm, rfl, name ▸ named_of_contribution contributed⟩
  -- the contribution that began the family is one of its series
  have filled : ∀ f ∈ families meters, f.series ≠ [] := by
    intro f mem
    obtain ⟨c, found, -⟩ := groups.first mem
    have name : c.name = f.name := by simpa using List.find?_some found
    have shown := (groups.mem_series mem).2 ⟨c, List.mem_of_find?_eq_some found, name, rfl⟩
    exact List.ne_nil_of_mem shown
  refine ⟨exported, fun f mem => ⟨filled f mem, stems f mem⟩, fun fit => ?_⟩
  constructor
  case family =>
    intro f mem
    obtain ⟨s, shown⟩ := List.exists_mem_of_ne_nil _ (filled f mem)
    obtain ⟨m, mem', c, -, -, -, named⟩ := stems f mem s shown
    exact named.family (fit m mem').name
  case label =>
    intro f mem s shown l labelled
    obtain ⟨m, mem', c, -, -, -, named⟩ := stems f mem s shown
    rw [named.labels] at labelled
    obtain ⟨t, tagged, rfl⟩ := List.mem_map.1 labelled
    obtain ⟨begins, plain⟩ := (fit m mem').keys t tagged
    exact named.label t tagged begins plain
  case different =>
    intro f mem s shown
    obtain ⟨m, mem', c, -, -, -, named⟩ := stems f mem s shown
    exact named.different.2 (fit m mem').apart

/-- A timer and a counter under names of which almost every character is replaced. -/
theorem names_of_replaced_characters :
    let meters : List (Meter Float) := [
      ⟨⟨"vertx.http-zeit", [⟨"größe 1", "x"⟩, ⟨"größe 2", "x"⟩]⟩, "", .timer ⟨1, 2, 2⟩⟩,
      ⟨⟨"ä:total", [⟨"=", ""⟩]⟩, "", .counter 3⟩]
    (∀ m ∈ meters, Fit m) ∧ Legal (families meters) ∧
      (families meters).map MetricFamily.name =
        ["_:total_total", "vertx_http_zeit_seconds", "vertx_http_zeit_seconds_max"] := by
  intro meters
  have name : ∀ m ∈ meters, Begins m.id.name := by decide +kernel
  have keys : ∀ m ∈ meters, ∀ t ∈ m.id.tags, Begins t.key ∧ ':' ∉ t.key.toList := by
    decide +kernel
  have apart : ∀ m ∈ meters, m.id.tags.Pairwise fun t t' =>
      ¬ List.Forall₂ Meet t.key.toList t'.key.toList := by
    simp only [← sanitize_eq_iff]
    decide +kernel
  have fit : ∀ m ∈ meters, Fit m := fun m mem => ⟨name m mem, keys m mem, apart m mem⟩
  exact ⟨fit, (names_of_families meters).2.2 fit, by decide +kernel⟩

/-- Not all names and different keys are reduced to legal ones: not two keys that differ in a replaced
character, a name or a key that begins with a digit, and a key with a colon. -/
theorem not_legal_of_names :
    let gauge (name : String) (keys : List String) : Meter Float :=
      ⟨⟨name, keys.map fun key => ⟨key, "x"⟩⟩, "", .gauge 1⟩
    let registered := [gauge "a" ["k.1", "k_1"], gauge "1a" [], gauge "a" ["1"], gauge "a" ["a:b"]]
    ∀ m ∈ registered, (m.id.name ≠ "" ∧ (∀ t ∈ m.id.tags, t.key ≠ "") ∧
      (m.id.tags.map Tag.key).Nodup) ∧ ¬ Legal (families [m]) := by
  intro gauge registered
  have filled : ∀ m ∈ registered, m.id.name ≠ "" ∧ (∀ t ∈ m.id.tags, t.key ≠ "") ∧
      (m.id.tags.map Tag.key).Nodup := by
    decide
  have broken : ∀ m ∈ registered, ¬ ∀ f ∈ families [m], FamilyName f.name ∧ ∀ s ∈ f.series,
      (∀ l ∈ s.labels, LabelName l.key) ∧ (s.labels.map Tag.key).Nodup := by
    decide +kernel
  refine fun m mem => ⟨filled m mem, fun legal => broken m mem fun f listed => ?_⟩
  exact ⟨legal.family f listed, fun s shown =>
    ⟨legal.label f listed s shown, legal.different f listed s shown⟩⟩

end Metering.Exposition
