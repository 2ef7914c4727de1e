import Mathlib.Data.List.Perm.Basic
import Metering.Document.Record
import Metering.Proofs.Document.Json

/-!
# Arrangements of documents

A document says the same when the members of its objects change places and when members of other
names are added (`Arranged`), and says less when members are dropped. A record is read from an
arrangement with what is left of its fields (`record_arranged`).
-/

namespace Metering.Document

/-- Which members are dropped, by the names that lead to them from the outside in. -/
abbrev Places := List String → Bool

/-- What is dropped inside a member. -/
def Places.within (drops : Places) (name : String) : Places :=
  fun path => drops (name :: path)

namespace Value

/-- A null, a boolean or a text. -/
inductive Plain : Value → Prop where
  | null : Plain .null
  | bool (b : Bool) : Plain (.bool b)
  | text (s : String) : Plain (.text s)

/-- Whether a document has no members. -/
def isClosed : Value → Bool
  | .members _ => false
  | _ => true

mutual

/--
The second document is the first one without the members that are dropped, with the members of each
object in any order and with plain members of other names among them.
-/
inductive Arranged : Places → Value → Value → Prop where
  | closed {drops : Places} {v : Value} (none_ : v.isClosed) : Arranged drops v v
  | members {drops : Places} {entries kept added result : List (String × Value)}
      (left : EntriesArranged drops entries kept)
      (strange : ∀ e ∈ added, e.1 ∉ entries.map Prod.fst ∧ e.2.Plain)
      (order : result.Perm (kept ++ added)) :
      Arranged drops (.members entries) (.members result)

/-- The entries that are not dropped, in their order, each of them arranged. -/
inductive EntriesArranged : Places → List (String × Value) → List (String × Value) → Prop where
  | nil {drops : Places} : EntriesArranged drops [] []
  | drop {drops : Places} {name : String} {v : Value} {entries kept : List (String × Value)}
      (dropped : drops [name]) (rest : EntriesArranged drops entries kept) :
      EntriesArranged drops ((name, v) :: entries) kept
  | keep {drops : Places} {name : String} {v w : Value} {entries kept : List (String × Value)}
      (spared : drops [name] = false) (arranged : Arranged (drops.within name) v w)
      (rest : EntriesArranged drops entries kept) :
      EntriesArranged drops ((name, v) :: entries) ((name, w) :: kept)

end

mutual

/-- A value is an arrangement of itself. -/
theorem Arranged.refl : ∀ v, Arranged (fun _ => false) v v
  | .members entries =>
    .members (EntriesArranged.refl entries) (List.forall_mem_nil _) (by rw [List.append_nil])
  | .null | .bool _ | .integer _ | .text _ | .list _ => .closed rfl

/-- Entries are an arrangement of themselves. -/
theorem EntriesArranged.refl : ∀ entries, EntriesArranged (fun _ => false) entries entries
  | [] => .nil
  | (_, v) :: entries => .keep rfl (Arranged.refl v) (EntriesArranged.refl entries)

end

variable {drops : Places} {entries kept added result : List (String × Value)} {levels : Nat}

/-- A value without objects has no arrangement but itself. -/
lemma Arranged.eq_of_closed {v w : Value} (closed : v.isClosed) (arranged : Arranged drops v w) :
    w = v := by
  cases arranged with
  | closed => rfl
  | members => cases closed

/-- Entries can be written if the value of each can. -/
lemma entriesWritable_iff :
    EntriesWritable levels entries ↔ ∀ e ∈ entries, e.2.Writable levels := by
  induction entries with
  | nil => simp [EntriesWritable]
  | cons e entries ih => simp [EntriesWritable, ih]

/-- A value that is neither list nor object can be written at any level. -/
lemma Plain.writable {v : Value} (plain : v.Plain) : v.Writable levels := by
  cases plain with
  | null => cases levels <;> trivial
  | bool => cases levels <;> trivial
  | text => cases levels <;> trivial

mutual

/-- With a value its arrangements can be written, since they are nested no deeper. -/
theorem Arranged.writable {drops : Places} {v w : Value} {levels : Nat} :
    Arranged drops v w → v.Writable levels → w.Writable levels
  | .closed _, writable => writable
  | .members left strange order, writable => by
    obtain ⟨inner, rfl, writable⟩ := Writable.members writable
    refine entriesWritable_iff.2 fun e mem => ?_
    obtain mem | mem := List.mem_append.1 (order.mem_iff.1 mem)
    · exact entriesWritable_iff.1 (EntriesArranged.writable left writable) e mem
    · exact (strange e mem).2.writable

/-- With some entries their arrangements can be written. -/
theorem EntriesArranged.writable {drops : Places} {entries kept : List (String × Value)}
    {levels : Nat} : EntriesArranged drops entries kept → EntriesWritable levels entries →
      EntriesWritable levels kept
  | .nil, writable => writable
  | .drop _ rest, writable => EntriesArranged.writable rest writable.2
  | .keep _ arranged rest, writable =>
    ⟨Arranged.writable arranged writable.1, EntriesArranged.writable rest writable.2⟩

end

/-- Of the names those are left that are not dropped, in their order. -/
lemma EntriesArranged.names (left : EntriesArranged drops entries kept) :
    kept.map Prod.fst = (entries.map Prod.fst).filter fun name => !drops [name] := by
  induction entries generalizing kept with
  | nil =>
    cases left
    rfl
  | cons e entries ih =>
    cases left with
    | drop dropped rest =>
      rw [ih rest, List.map_cons, List.filter_cons_of_neg (by simp [dropped])]
    | keep spared _ rest =>
      rw [List.map_cons, ih rest, List.map_cons, List.filter_cons_of_pos (by simp [spared])]

/-- Every entry that is left is an arrangement of one that was there. -/
lemma EntriesArranged.exists_of_mem (left : EntriesArranged drops entries kept)
    {e : String × Value} (mem : e ∈ kept) :
    ∃ v, (e.1, v) ∈ entries ∧ Arranged (drops.within e.1) v e.2 := by
  induction entries generalizing kept with
  | nil =>
    cases left
    cases mem
  | cons first entries ih =>
    cases left with
    | drop _ rest =>
      obtain ⟨v, of_entries, arranged⟩ := ih rest mem
      exact ⟨v, List.mem_cons_of_mem _ of_entries, arranged⟩
    | keep _ arranged rest =>
      obtain rfl | mem := List.mem_cons.1 mem
      · exact ⟨_, List.mem_cons_self, arranged⟩
      · obtain ⟨v, of_entries, arranged⟩ := ih rest mem
        exact ⟨v, List.mem_cons_of_mem _ of_entries, arranged⟩

/-- The first entry of an object that has one of this name, and an arrangement of the others. -/
lemma Arranged.take_first {name : String} {v w : Value}
    (arranged : Arranged drops (.members ((name, v) :: entries)) w)
    (spared : drops [name] = false) (fresh : name ∉ entries.map Prod.fst) :
    ∃ u before after, w = .members (before ++ (name, u) :: after) ∧
      Arranged (drops.within name) v u ∧
      Arranged drops (.members entries) (.members (before ++ after)) ∧
      name ∉ (before ++ after).map Prod.fst := by
  cases arranged with
  | closed none_ => cases none_
  | @members _ _ kept added result left strange order =>
    cases left with
    | drop dropped => exact absurd (spared.symm.trans dropped) Bool.false_ne_true
    | @keep _ _ _ u _ kept _ first rest =>
      have mem : (name, u) ∈ result := order.mem_iff.2 (by simp)
      obtain ⟨before, after, rfl⟩ := List.append_of_mem mem
      have others : (before ++ after).Perm (kept ++ added) :=
        (List.perm_middle.symm.trans order).cons_inv
      refine ⟨u, before, after, rfl, first, .members rest (fun e mem => ?_) others, ?_⟩
      · obtain ⟨other, plain⟩ := strange e mem
        exact ⟨fun mem => other (List.mem_cons_of_mem _ mem), plain⟩
      · intro mem
        rw [(others.map Prod.fst).mem_iff, List.map_append, List.mem_append, rest.names] at mem
        obtain of_kept | of_added := mem
        · exact fresh (List.mem_of_mem_filter of_kept)
        · obtain ⟨e, mem, same⟩ := List.mem_map.1 of_added
          exact (strange e mem).1 (same ▸ List.mem_cons_self)

/-! ## What a reader sees of an arrangement -/

/-- A value that is neither list nor object can be skipped. -/
lemma Plain.skip_node {v : Value} (plain : v.Plain) : v.node.skip = .ok () := by
  cases plain <;> rfl

mutual

/-- A value that can be written can be held. -/
theorem hold_node : ∀ {levels : Nat} (v : Value), v.Writable levels → v.node.hold levels = .ok ()
  | _, .null, _ | _, .bool _, _ | _, .integer _, _ | _, .text _, _ => rfl
  | 0, .list _, writable | 0, .members _, writable => writable.elim
  | levels + 1, .list items, writable => by
    rw [node, Node.hold, hold_itemNodes items writable]
    rfl
  | levels + 1, .members entries, writable => by
    rw [node, Node.hold, hold_entryNodes entries writable]
    rfl

/-- Items that can be written can be held. -/
theorem hold_itemNodes : ∀ {levels : Nat} (items : List Value), ItemsWritable levels items →
    Node.holdItems levels (itemNodes items) = .ok ()
  | _, [], _ => rfl
  | _, item :: items, writable => by
    rw [itemNodes, Node.holdItems, hold_node item writable.1]
    exact hold_itemNodes items writable.2

/-- Entries that can be written can be held. -/
theorem hold_entryNodes : ∀ {levels : Nat} (entries : List (String × Value)),
    EntriesWritable levels entries → Node.holdEntries levels (entryNodes entries) = .ok ()
  | _, [], _ => rfl
  | _, (key, v) :: entries, writable => by
    rw [entryNodes, Node.holdEntries, hold_node v writable.1]
    exact hold_entryNodes entries writable.2

end

end Value

namespace RecordField

open Value

variable {ρ : Type} {fields : List (RecordField ρ)} {having : (String → Bool) → ρ}
  {drops : Places} {entries : List (String × Value)} {w : Value}

/-- Whether a record has a field of a name. -/
def isKnown (fields : List (RecordField ρ)) (name : String) : Bool :=
  (fields.find? (·.name == name)).isSome

/--
A record is read entry by entry: `having` gives the record that has the fields that have been met,
the others being at their defaults.
-/
lemma ofEntries_having {result : List (String × Value)} {seen : List String}
    (set : ∀ e ∈ result, ∀ field, fields.find? (·.name == e.1) = some field → ∀ has,
      field.set e.2.node (having has) = .ok (having fun name => name == e.1 || has name))
    (skip : ∀ e ∈ result, fields.find? (·.name == e.1) = none → e.2.node.skip = .ok ())
    (nodup : (((result.map Prod.fst).filter (isKnown fields)) ++ seen).Nodup) :
    ofEntries fields .closed (entryNodes result) seen (having fun name => seen.contains name) =
      .ok (having fun name =>
        ((result.map Prod.fst).filter (isKnown fields) ++ seen).contains name) := by
  -- on the entries; what is seen is the known names so far, in reverse
  induction result generalizing seen with
  | nil => rfl
  | cons e result ih =>
    obtain ⟨set_first, set⟩ := List.forall_mem_cons.1 set
    obtain ⟨skip_first, skip⟩ := List.forall_mem_cons.1 skip
    rw [entryNodes, ofEntries]
    cases found : fields.find? (·.name == e.1) with
    | none =>
      have unknown : ¬ isKnown fields e.1 := by simp [isKnown, found]
      rw [List.map_cons, List.filter_cons_of_neg unknown] at nodup ⊢
      simp only [bind, Except.bind, found, skip_first found]
      exact ih set skip nodup
    | some field =>
      have known : isKnown fields e.1 := by simp [isKnown, found]
      rw [List.map_cons, List.filter_cons_of_pos known, List.cons_append] at nodup ⊢
      have fresh : seen.contains e.1 = false := by
        have := (List.nodup_cons.1 nodup).1
        simp_all
      have moved : ((result.map Prod.fst).filter (isKnown fields) ++ e.1 :: seen).Perm
          (e.1 :: ((result.map Prod.fst).filter (isKnown fields) ++ seen)) := List.perm_middle
      have next := ih set skip (moved.nodup_iff.2 nodup)
      have met : (fun name => name == e.1 || seen.contains name) =
          fun name => (e.1 :: seen).contains name := by
        funext name
        rw [List.contains_cons]
      simp only [bind, Except.bind, found, fresh, set_first field found, met, Bool.false_eq_true,
        if_false]
      refine next.trans ?_
      congr 2
      funext name
      exact moved.contains_eq

/-- The known members are those that have a field. -/
lemma isKnown_iff {name : String} : isKnown fields name ↔ name ∈ fields.map RecordField.name := by
  simp [isKnown, List.find?_isSome]

/-- Whether a field is read from the arrangements of its entry. -/
def Readable (having : (String → Bool) → ρ) (drops : Places) (entries : List (String × Value))
    (field : RecordField ρ) : Prop :=
  ∀ v w has, (field.name, v) ∈ entries → Arranged (drops.within field.name) v w →
    field.set w.node (having has) = .ok (having fun name => name == field.name || has name)

/--
The record that is read from an arrangement has the fields that are not dropped, if each entry of
the document stands for a field.
-/
theorem record_arranged (origin : Origin) (having : (String → Bool) → ρ)
    (names : entries.map Prod.fst = fields.map RecordField.name)
    (nodup : (fields.map RecordField.name).Nodup)
    (congr : ∀ has has' : String → Bool,
      (∀ field ∈ fields, has field.name = has' field.name) → having has = having has')
    (readable : ∀ field ∈ fields, Readable having drops entries field)
    (arranged : Arranged drops (.members entries) w) :
    record origin fields (having fun _ => false) w.node =
      .ok (having fun name => !drops [name]) := by
  cases arranged with
  | closed none_ => cases none_
  | @members _ _ kept added result left strange order =>
    have kept_known : ∀ e ∈ kept, isKnown fields e.1 := by
      intro e mem
      obtain ⟨v, of_entries, -⟩ := left.exists_of_mem mem
      rw [isKnown_iff, ← names]
      exact List.mem_map.2 ⟨_, of_entries, rfl⟩
    have added_unknown : ∀ e ∈ added, ¬ isKnown fields e.1 := by
      intro e mem known
      rw [isKnown_iff, ← names] at known
      exact (strange e mem).1 known
    have known : ((result.map Prod.fst).filter (isKnown fields)).Perm (kept.map Prod.fst) := by
      refine ((order.map Prod.fst).filter _).trans ?_
      rw [List.map_append, List.filter_append, List.filter_eq_self.2, List.filter_eq_nil_iff.2,
        List.append_nil]
      · simpa using added_unknown
      · simpa using kept_known
    -- known entries are those that were kept, unknown ones those that were added
    have set : ∀ e ∈ result, ∀ field, fields.find? (·.name == e.1) = some field → ∀ has,
        field.set e.2.node (having has) = .ok (having fun name => name == e.1 || has name) := by
      intro e mem field found has
      have name : field.name = e.1 := by simpa using List.find?_some found
      obtain mem | mem := List.mem_append.1 (order.mem_iff.1 mem)
      · obtain ⟨v, of_entries, arranged⟩ := left.exists_of_mem mem
        rw [← name] at of_entries arranged ⊢
        exact readable field (List.mem_of_find?_eq_some found) v e.2 has of_entries arranged
      · exact absurd (by simp [isKnown, found]) (added_unknown e mem)
    have skip : ∀ e ∈ result, fields.find? (·.name == e.1) = none → e.2.node.skip = .ok () := by
      intro e mem unknown
      obtain mem | mem := List.mem_append.1 (order.mem_iff.1 mem)
      · exact absurd (kept_known e mem) (by simp [isKnown, unknown])
      · exact (strange e mem).2.skip_node
    have kept_names : kept.map Prod.fst =
        (fields.map RecordField.name).filter fun name => !drops [name] := by
      rw [left.names, names]
    have read := ofEntries_having set skip (by
      rw [List.append_nil, known.nodup_iff, kept_names]
      exact nodup.filter _)
    refine read.trans (congrArg _ (congr _ _ fun field mem => ?_))
    rw [List.append_nil, known.contains_eq, kept_names]
    have of_names := List.mem_map_of_mem (f := RecordField.name) mem
    simp [of_names]

/-- A member is read into the record whatever its arrangement is, and only its own field is known to
be there then. -/
lemma Readable.reading {α : Type} {name : String} {read : Node → Except Misreading α}
    {put : α → ρ → ρ} (a : α) (v : Value) (only : ∀ u, (name, u) ∈ entries → u = v)
    (read_eq : ∀ w, Arranged (drops.within name) v w → read w.node = .ok a)
    (put_eq : ∀ has, put a (having has) = having fun n => n == name || has n) :
    Readable having drops entries (.reading name read put) := by
  intro u w has mem arranged
  obtain rfl := only u mem
  change (read w.node).map (fun a => put a (having has)) = _
  rw [read_eq w arranged]
  exact congrArg Except.ok (put_eq has)

/-- A field whose entry has no members of its own. -/
lemma Readable.closed {α : Type} {name : String} {read : Node → Except Misreading α}
    {put : α → ρ → ρ} (a : α) (v : Value) (only : ∀ u, (name, u) ∈ entries → u = v)
    (closed : v.isClosed) (read_eq : read v.node = .ok a)
    (put_eq : ∀ has, put a (having has) = having fun n => n == name || has n) :
    Readable having drops entries (.reading name read put) := by
  refine .reading a v only (fun w arranged => ?_) put_eq
  rw [arranged.eq_of_closed closed, read_eq]

end RecordField

end Metering.Document
