import Mathlib.Algebra.Ring.Nat
import Mathlib.Data.List.Basic
import Mathlib.Tactic.Lemma
import Metering.Exposition

/-!
# Grouping

What becomes of contributions when they are inserted one after another into metric families: under
each name that occurs there is one family, which has the contributions of the name in order, with the
help and type of the first (`Exposition.Groups`). The families are in the order of their names, and no
contribution is lost or doubled (`Exposition.perm_families`). What is said to describe the meters shows
in the help only (`Exposition.map_bare_families`).
-/

namespace Metering.Exposition

variable {α : Type} {c : Contribution α} {cs : List (Contribution α)}
variable {f g : MetricFamily α} {fs : List (MetricFamily α)}

/-- The family under the name of a contribution, with the contribution in it. -/
def grown (c : Contribution α) : Option (MetricFamily α) → MetricFamily α
  | some f => { f with series := f.series ++ [c.series] }
  | none => familyOf c

/-- Families in the strict order of their names. -/
def Ordered (fs : List (MetricFamily α)) : Prop :=
  fs.Pairwise fun f g => f.name < g.name

/-- A greater name is another one. -/
lemma ne_of_lt {a b : String} (lt : a < b) : b ≠ a := by
  rintro rfl
  exact String.lt_irrefl b lt

/-- Only the family under the name of the contribution changes. -/
lemma mem_insert (ordered : Ordered fs) : f ∈ insert c fs ↔
    f ∈ fs ∧ f.name ≠ c.name ∨ f = grown c (fs.find? fun g => g.name = c.name) := by
  induction fs with
  | nil => simp [insert, grown]
  | cons g fs ih =>
    obtain ⟨above, ordered⟩ := List.pairwise_cons.1 ordered
    rw [insert]
    by_cases here : c.name = g.name
    · have later (mem : f ∈ fs) : f.name ≠ g.name := ne_of_lt (above f mem)
      rw [if_pos here, List.find?_cons_of_pos (by simp [here]), here, List.mem_cons, List.mem_cons]
      -- the head is the family that grows; those behind it have greater names
      constructor
      · rintro (rfl | mem)
        · exact .inr rfl
        · exact .inl ⟨.inr mem, later mem⟩
      · rintro (⟨rfl | mem, ne⟩ | rfl)
        · exact absurd rfl ne
        · exact .inr mem
        · exact .inl rfl
    · rw [if_neg here]
      by_cases before : c.name < g.name
      · -- the contribution comes before all families
        have later (f' : MetricFamily α) (mem : f' ∈ g :: fs) : f'.name ≠ c.name := by
          rcases List.mem_cons.1 mem with rfl | mem
          · exact Ne.symm here
          · exact ne_of_lt (String.lt_trans before (above f' mem))
        have missing : (g :: fs).find? (fun g => g.name = c.name) = none :=
          List.find?_eq_none.2 fun f' mem => by simpa using later f' mem
        rw [if_pos before, missing, List.mem_cons, or_comm]
        exact or_congr_left (and_iff_left_of_imp (later f)).symm
      · rw [if_neg before, List.find?_cons_of_neg (by simpa using Ne.symm here), List.mem_cons,
          List.mem_cons, ih ordered]
        constructor
        · rintro (rfl | ⟨mem, ne⟩ | eq)
          · exact .inl ⟨.inl rfl, Ne.symm here⟩
          · exact .inl ⟨.inr mem, ne⟩
          · exact .inr eq
        · rintro (⟨rfl | mem, ne⟩ | eq)
          · exact .inl rfl
          · exact .inr (.inl ⟨mem, ne⟩)
          · exact .inr (.inr eq)

/-- A family that is found by a name has it. -/
lemma name_of_find? (found : (fs.find? fun g => g.name = c.name) = some g) : g.name = c.name := by
  simpa using List.find?_some found

/-- A family that has grown, or begun, has the name of what was contributed. -/
lemma grown_name (c : Contribution α) (fs : List (MetricFamily α)) :
    (grown c (fs.find? fun g => g.name = c.name)).name = c.name := by
  cases found : fs.find? fun g => g.name = c.name with
  | none => rfl
  | some g =>
    have name := name_of_find? found
    exact name

/-- The families stay in the order of their names. -/
lemma Ordered.insert (ordered : Ordered fs) (c : Contribution α) : Ordered (insert c fs) := by
  induction fs with
  | nil => exact List.pairwise_singleton _ _
  | cons g fs ih =>
    obtain ⟨above, ordered'⟩ := List.pairwise_cons.1 ordered
    rw [Exposition.insert]
    -- as `insert` looks: the head grows, or the new family stands before it, or further down
    by_cases here : c.name = g.name
    · rw [if_pos here]
      exact List.pairwise_cons.2 ⟨above, ordered'⟩
    · rw [if_neg here]
      by_cases before : c.name < g.name
      · rw [if_pos before]
        refine List.pairwise_cons.2 ⟨fun f mem => ?_, ordered⟩
        rcases List.mem_cons.1 mem with rfl | mem
        · exact before
        · exact String.lt_trans before (above f mem)
      · rw [if_neg before]
        refine List.pairwise_cons.2 ⟨fun f mem => ?_, ih ordered'⟩
        rcases (mem_insert ordered').1 mem with ⟨mem, -⟩ | rfl
        · exact above f mem
        · rw [grown_name]
          exact Std.lt_of_le_of_ne (String.not_lt.1 before) (Ne.symm here)

/-- Families that group some contributions by their names. -/
structure Groups (cs : List (Contribution α)) (fs : List (MetricFamily α)) : Prop where
  ordered : Ordered fs
  /-- A family has the contributions of its name, in order. -/
  series {f : MetricFamily α} :
    f ∈ fs → f.series = (cs.filter fun c => c.name = f.name).map Contribution.series
  /-- Help and type are those of the first contribution. -/
  first {f : MetricFamily α} : f ∈ fs → ∃ c, (cs.find? fun c => c.name = f.name) = some c ∧
    f.help = c.help ∧ f.type = c.series.quantity.type
  /-- Every name that occurs has a family. -/
  named {c : Contribution α} : c ∈ cs → ∃ f ∈ fs, f.name = c.name

/-- No contributions make no families. -/
lemma Groups.nil : Groups ([] : List (Contribution α)) [] where
  ordered := List.Pairwise.nil
  series mem := nomatch mem
  first mem := nomatch mem
  named mem := nomatch mem

/-- A family is missing if nothing was contributed under its name. -/
lemma Groups.find?_eq_none (groups : Groups cs fs)
    (missing : fs.find? (fun g => g.name = c.name) = none) : ∀ c' ∈ cs, c'.name ≠ c.name := by
  intro c' mem same
  obtain ⟨f, listed, name⟩ := groups.named mem
  have ne := List.find?_eq_none.1 missing f listed
  rw [name, same, decide_eq_true rfl] at ne
  exact ne rfl

/-- One more contribution is grouped with the others. -/
lemma Groups.insert (groups : Groups cs fs) (c : Contribution α) :
    Groups (cs ++ [c]) (insert c fs) where
  ordered := groups.ordered.insert c
  series := by
    intro f mem
    rw [List.filter_append, List.map_append]
    -- another family, or the one that has grown
    rcases (mem_insert groups.ordered).1 mem with ⟨mem, other⟩ | rfl
    · rw [groups.series mem, List.filter_cons_of_neg (by simpa using Ne.symm other)]
      exact (List.append_nil _).symm
    · rw [grown_name, List.filter_cons_of_pos (by simp)]
      cases found : fs.find? fun g => g.name = c.name with
      | none =>
        have fresh : cs.filter (fun c' => c'.name = c.name) = [] :=
          List.filter_eq_nil_iff.2 fun c' mem => by simpa using groups.find?_eq_none found c' mem
        rw [fresh]
        rfl
      | some g =>
        have name := name_of_find? found
        have series := groups.series (List.mem_of_find?_eq_some found)
        rw [name] at series
        rw [← series]
        rfl
  first := by
    intro f mem
    rw [List.find?_append]
    rcases (mem_insert groups.ordered).1 mem with ⟨mem, -⟩ | rfl
    · obtain ⟨c', first, same⟩ := groups.first mem
      exact ⟨c', by rw [first, Option.some_or], same⟩
    · rw [grown_name]
      cases found : fs.find? fun g => g.name = c.name with
      | none =>
        have fresh : cs.find? (fun c' => c'.name = c.name) = none :=
          List.find?_eq_none.2 fun c' mem => by simpa using groups.find?_eq_none found c' mem
        rw [fresh, Option.none_or, List.find?_cons_of_pos (by simp)]
        exact ⟨c, rfl, rfl, rfl⟩
      | some g =>
        have name := name_of_find? found
        obtain ⟨c', first, same⟩ := groups.first (List.mem_of_find?_eq_some found)
        rw [name] at first
        exact ⟨c', by rw [first, Option.some_or], same⟩
  named := by
    intro c' mem
    have grown_mem : grown c (fs.find? fun g => g.name = c.name) ∈ Exposition.insert c fs :=
      (mem_insert groups.ordered).2 (.inr rfl)
    by_cases same : c'.name = c.name
    · exact ⟨_, grown_mem, (grown_name c fs).trans same.symm⟩
    · rcases List.mem_append.1 mem with old | new
      · obtain ⟨f, listed, name⟩ := groups.named old
        exact ⟨f, (mem_insert groups.ordered).2 (.inl ⟨listed, name ▸ same⟩), name⟩
      · rw [List.mem_singleton.1 new] at same
        exact absurd rfl same

/-- The families of a list of meters group what the meters contribute. -/
theorem groups_families [Amount α] (meters : List (Meter α)) :
    Groups (meters.flatMap contributions) (families meters) := by
  -- on what is left to insert, while what is grouped already grows at its end
  have grouped {cs rest : List (Contribution α)} {fs : List (MetricFamily α)}
      (groups : Groups cs fs) :
      Groups (cs ++ rest) (rest.foldl (fun fs c => insert c fs) fs) := by
    induction rest generalizing cs fs with
    | nil => simpa using groups
    | cons c rest ih =>
      have step := ih (groups.insert c)
      rwa [List.append_assoc] at step
  exact grouped Groups.nil

/-- All series of some families, each under the name of its family. -/
def shownSeries (fs : List (MetricFamily α)) : List (String × Series α) :=
  fs.flatMap fun f => f.series.map fun s => (f.name, s)

/-- The first family shows its series before the others. -/
lemma shownSeries_cons (f : MetricFamily α) (fs : List (MetricFamily α)) :
    shownSeries (f :: fs) = f.series.map (fun s => (f.name, s)) ++ shownSeries fs :=
  List.flatMap_cons

/-- As many series are shown as the families have. -/
lemma length_shownSeries (fs : List (MetricFamily α)) :
    (shownSeries fs).length = (fs.map fun f => f.series.length).sum := by
  simp only [shownSeries, List.length_flatMap, List.length_map]

/-- One more contribution is shown beside what was shown before. -/
lemma perm_insert (c : Contribution α) (fs : List (MetricFamily α)) :
    (shownSeries (insert c fs)).Perm ((c.name, c.series) :: shownSeries fs) := by
  induction fs with
  | nil => exact .refl _
  | cons g fs ih =>
    rw [insert]
    split
    case isTrue here =>
      rw [shownSeries_cons, shownSeries_cons, List.map_append, here]
      exact (List.append_assoc ..).symm ▸ List.perm_middle
    case isFalse =>
      split
      case isTrue => exact .refl _
      case isFalse =>
        rw [shownSeries_cons, shownSeries_cons]
        exact (ih.append_left _).trans List.perm_middle

/-- What the families show is what the meters contribute. -/
theorem perm_families [Amount α] (meters : List (Meter α)) :
    (shownSeries (families meters)).Perm
      ((meters.flatMap contributions).map fun c => (c.name, c.series)) := by
  have inserted (cs : List (Contribution α)) (fs : List (MetricFamily α)) :
      (shownSeries (cs.foldl (fun fs c => insert c fs) fs)).Perm
        (cs.map (fun c => (c.name, c.series)) ++ shownSeries fs) := by
    induction cs generalizing fs with
    | nil => exact .refl _
    | cons c cs ih =>
      exact ((ih (insert c fs)).trans ((perm_insert c fs).append_left _)).trans List.perm_middle
  have all := inserted (meters.flatMap contributions) []
  rwa [show shownSeries ([] : List (MetricFamily α)) = [] from rfl, List.append_nil] at all

/-! ## Help -/

/-- A family without its help. -/
def bare (f : MetricFamily α) : MetricFamily α := { f with help := "" }

/-- A contribution without its help. -/
def Contribution.bare (c : Contribution α) : Contribution α := { c with help := "" }

/-- Descriptions play no part in where a contribution goes. -/
lemma map_bare_insert (c : Contribution α) (fs : List (MetricFamily α)) :
    (insert c fs).map bare = insert c.bare (fs.map bare) := by
  induction fs with
  | nil => rfl
  | cons f fs ih =>
    have name : (bare f).name = f.name := rfl
    have name' : c.bare.name = c.name := rfl
    rw [insert, List.map_cons, insert, name, name', ← ih]
    split
    case isTrue => rfl
    case isFalse => split <;> rfl

/-- Descriptions play no part in what a meter contributes. -/
lemma contributions_bare [Amount α] (m : Meter α) :
    contributions { m with description := "" } = (contributions m).map Contribution.bare := by
  rw [contributions, contributions]
  cases m.instrument <;> rfl

/-- Descriptions decide nothing but the help of families. -/
theorem map_bare_families [Amount α] (meters : List (Meter α)) :
    (families meters).map bare = families (meters.map fun m => { m with description := "" }) := by
  have inserted (cs : List (Contribution α)) (fs : List (MetricFamily α)) :
      (cs.foldl (fun fs c => insert c fs) fs).map bare =
        (cs.map Contribution.bare).foldl (fun fs c => insert c fs) (fs.map bare) := by
    induction cs generalizing fs with
    | nil => rfl
    | cons c cs ih => rw [List.foldl_cons, ih, map_bare_insert, List.map_cons, List.foldl_cons]
  rw [families, families, inserted, List.map_flatMap, List.flatMap_map]
  simp only [contributions_bare]
  rfl

end Metering.Exposition
