import Mathlib.Data.List.Nodup
import Mathlib.Data.String.Basic
import Mathlib.Tactic.Lemma
import Metering.Hub

/-!
# The order of listings

Identities are compared by a total order that tells apart all that differ: `MeterId.order_eq_lt_iff`
says in words what comes before what. Listings of different identities are therefore sorted in one
way only, whatever order they come in (`Hub.sorted_eq_of_perm`).
-/

namespace Metering

/-! ## Identities -/

/-- Tags come by key and, under one key, by value. -/
def Tag.Before (t u : Tag) : Prop :=
  t.key < u.key ∨ t.key = u.key ∧ t.value < u.value

/-- Identities come by name and, under one name, by tags: the first difference decides, and a list of
tags comes before its extensions. -/
def MeterId.Before (a b : MeterId) : Prop :=
  a.name < b.name ∨ a.name = b.name ∧ List.Lex Tag.Before a.tags b.tags

namespace Tag

instance : Std.TransCmp order :=
  inferInstanceAs (Std.TransCmp (compareLex (compareOn key) (compareOn value)))

instance : Std.LawfulEqCmp order where
  eq_of_compare {t u} same := by
    obtain ⟨key, value⟩ := Ordering.then_eq_eq.1 same
    cases t
    cases u
    exact congrArg₂ mk (compare_eq_iff_eq.1 key) (compare_eq_iff_eq.1 value)

/-- The comparison of tags says less exactly if one comes before the other. -/
lemma order_eq_lt_iff {t u : Tag} : t.order u = .lt ↔ t.Before u := by
  rw [order, Ordering.then_eq_lt, compare_lt_iff_lt, compare_eq_iff_eq, compare_lt_iff_lt]
  rfl

/-- Lists of tags are compared as words are. -/
lemma orderAll_eq_compareLex : orderAll = List.compareLex order := by
  funext ts us
  induction ts generalizing us with
  | nil => cases us <;> rfl
  | cons t ts ih =>
    cases us with
    | nil => rfl
    | cons u us =>
      rw [orderAll, List.compareLex, ih]
      cases t.order u <;> rfl

instance : Std.TransCmp orderAll := by
  rw [orderAll_eq_compareLex]
  infer_instance

instance : Std.LawfulEqCmp orderAll := by
  rw [orderAll_eq_compareLex]
  infer_instance

/-- The comparison of lists of tags says less exactly if one comes before the other as a word. -/
lemma orderAll_eq_lt_iff {ts us : List Tag} : orderAll ts us = .lt ↔ List.Lex Before ts us := by
  induction ts generalizing us with
  | nil =>
    cases us with
    | nil => simp [orderAll]
    | cons u us => simp [orderAll]
  | cons t ts ih =>
    cases us with
    | nil => simp [orderAll]
    | cons u us =>
      rw [orderAll, Ordering.then_eq_lt, order_eq_lt_iff, ih, List.cons_lex_cons_iff,
        Std.LawfulEqCmp.compare_eq_iff_eq]

end Tag

namespace MeterId

instance : Std.TransCmp fun a b : MeterId => Tag.orderAll a.tags b.tags where
  eq_swap := Std.OrientedCmp.eq_swap
  isLE_trans := Std.TransCmp.isLE_trans

instance : Std.TransCmp order :=
  inferInstanceAs (Std.TransCmp (compareLex (compareOn name) fun a b => Tag.orderAll a.tags b.tags))

/-- Only an identity itself is neither before nor behind it. -/
instance : Std.LawfulEqCmp order where
  eq_of_compare {a b} same := by
    obtain ⟨name, tags⟩ := Ordering.then_eq_eq.1 same
    cases a
    cases b
    exact congrArg₂ mk (compare_eq_iff_eq.1 name) (Std.LawfulEqCmp.eq_of_compare tags)

/-- The comparison of identities says less exactly if one comes before the other. -/
lemma order_eq_lt_iff {a b : MeterId} : a.order b = .lt ↔ a.Before b := by
  rw [order, Ordering.then_eq_lt, compare_lt_iff_lt, compare_eq_iff_eq, Tag.orderAll_eq_lt_iff]
  rfl

/-- Of two identities at most one comes before the other. -/
lemma Before.asymm {a b : MeterId} (before : a.Before b) : ¬ b.Before a := by
  intro behind
  have gt := Std.OrientedCmp.gt_iff_lt.2 (order_eq_lt_iff.2 behind)
  rw [order_eq_lt_iff.2 before] at gt
  cases gt

/-- No identity comes before itself. -/
lemma Before.ne {a b : MeterId} (before : a.Before b) : a ≠ b := by
  rintro rfl
  exact before.asymm before

end MeterId

/-! ## Listings -/

namespace Hub

variable {ls ls' : List Listing}

/-- Sorted listings are in the order of their identities. -/
lemma pairwise_sorted (ls : List Listing) :
    (sorted ls).Pairwise fun l l' => (l.id.order l'.id).isLE := by
  have isLE (o : Ordering) : (o != .gt) = o.isLE := by cases o <;> rfl
  have pairwise : (sorted ls).Pairwise fun l l' => (l.id.order l'.id != .gt) = true := by
    refine List.pairwise_mergeSort (fun a b c => ?_) (fun a b => ?_) ls
    · simp only [isLE]
      exact Std.TransCmp.isLE_trans
    · simp only [isLE]
      rw [@Std.OrientedCmp.eq_swap _ MeterId.order _ b.id a.id]
      cases a.id.order b.id <;> rfl
  simpa only [isLE] using pairwise

/-- Listings of different identities are sorted strictly. -/
theorem increasing_sorted (nodup : (ls.map Listing.id).Nodup) :
    (sorted ls).Pairwise fun l l' => l.id.Before l'.id := by
  have perm : (sorted ls).Perm ls := List.mergeSort_perm ..
  have ids : (sorted ls).Pairwise fun l l' => l.id ≠ l'.id :=
    List.pairwise_map.1 ((perm.map Listing.id).symm.nodup nodup)
  refine ((pairwise_sorted ls).and ids).imp fun ⟨le, ne⟩ => MeterId.order_eq_lt_iff.1 ?_
  cases order : MeterId.order _ _ with
  | lt => rfl
  | eq => exact absurd (Std.LawfulEqCmp.eq_of_compare order) ne
  | gt =>
    rw [order] at le
    cases le

/-- In whatever order listings of different identities come, they are sorted in one way. -/
theorem sorted_eq_of_perm (perm : ls.Perm ls') (nodup : (ls'.map Listing.id).Nodup) :
    sorted ls = sorted ls' := by
  have same : (sorted ls).Perm (sorted ls') :=
    (List.mergeSort_perm ..).trans (perm.trans (List.mergeSort_perm ..).symm)
  have nodup' : (ls.map Listing.id).Nodup := (perm.map Listing.id).symm.nodup nodup
  refine same.eq_of_pairwise (fun l l' _ _ before behind => ?_) (increasing_sorted nodup')
    (increasing_sorted nodup)
  exact absurd behind before.asymm

end Hub

end Metering
