import Metering.Proofs.Url.Authority

/-!
# Paths that end with a service

Whatever a path begins with, the name of a service behind its last slash is its last segment
(`Word.last_pathOf`): a name of letters leads neither back nor to a drive, and nothing of it is
encoded.
-/

namespace Metering

namespace Text

variable {sep : Char → Bool}

/-- A separator splits a text in two. -/
lemma splitOn_append_cons {c : Char} (separates : sep c = true) (s t : List Char) :
    splitOn sep (s ++ c :: t) = splitOn sep s ++ splitOn sep t := by
  induction s with
  | nil =>
    exact if_pos separates
  | cons d s ih =>
    rw [List.cons_append, splitOn, splitOn, ih]
    split
    · rfl
    · cases pieces : splitOn sep s with
      | nil => exact absurd pieces (splitOn_ne_nil sep s)
      | cons piece pieces => rfl

/-- A text without separators is one piece. -/
lemma splitOn_of_none {s : List Char} (none : ∀ c ∈ s, sep c = false) : splitOn sep s = [s] := by
  induction s with
  | nil => rfl
  | cons c s ih =>
    obtain ⟨first, rest⟩ := List.forall_mem_cons.1 none
    rw [splitOn, if_neg (Bool.eq_false_iff.1 first), ih rest]

end Text

namespace Url

open Text

/-! ## Last segments -/

/-- The text behind the last slash of a path. -/
def Path.last (p : Path) : List Char :=
  p.text.rtakeWhile (· != '/')

/-- The end behind the last slash is what follows it. -/
lemma rtakeWhile_append_slash {w : List Char} (whole : '/' ∉ w) (s : List Char) :
    (s ++ '/' :: w).rtakeWhile (· != '/') = w := by
  have passed : ∀ c ∈ w.reverse, (c != '/') = true := by
    intro c mem
    exact bne_iff_ne.2 fun eq => whole (eq ▸ List.mem_reverse.1 mem)
  rw [List.rtakeWhile, List.reverse_append, List.reverse_cons, List.append_assoc,
    List.takeWhile_append_of_pos passed, List.singleton_append,
    List.takeWhile_cons_of_neg (by simp), List.append_nil, List.reverse_reverse]

/-- The last segment of a path is the one at its end. -/
lemma Path.last_rooted {w : List Char} (whole : '/' ∉ w) (segments : List (List Char)) :
    (Path.rooted (segments ++ [w])).last = w := by
  rw [Path.last, Path.text, List.flatMap_append, List.flatMap_singleton]
  exact rtakeWhile_append_slash whole _

/-! ## Names of letters -/

/-- A text without percent signs has no encoded dots. -/
lemma decodeDots_of_not_mem {s : List Char} (plain : '%' ∉ s) : decodeDots s = s := by
  fun_induction decodeDots s with
  | case1 => simp at plain
  | case2 => simp at plain
  | case3 c rest _ _ ih => rw [ih (List.not_mem_of_not_mem_cons plain)]
  | case4 => rfl

section Word

variable {w : List Char} (word : Word w)
include word

/-- What holds of no letter holds of none of a name. -/
lemma Word.of_letters (p : Char → Bool)
    (none : ∀ n < 0x80, (Char.ofNat n).isAlpha = true → p (Char.ofNat n) = false) {c : Char}
    (mem : c ∈ w) : p c = false := by
  have letter := word.letter mem
  have low : c.toNat < 0x80 := by
    have split : (c.isUpper || c.isLower) = true := letter
    rcases Bool.or_eq_true_iff.1 split with upper | lower
    · have range : c.val ≥ 'A'.val ∧ c.val ≤ 'Z'.val := of_decide_eq_true upper
      have most : c.toNat ≤ 90 := UInt32.le_iff_toNat_le.1 range.2
      omega
    · have below : c.val ≤ 'z'.val := of_decide_eq_true (Bool.and_eq_true_iff.1 lower).2
      have most : c.toNat ≤ 122 := UInt32.le_iff_toNat_le.1 below
      omega
  have found := none c.toNat low
  rw [Char.ofNat_toNat] at found
  exact found letter

/-- No letter of a word is a gap. -/
lemma Word.not_isGap {c : Char} (mem : c ∈ w) : isGap c = false :=
  word.of_letters isGap (by decide) mem

/-- No letter of a word is a slash. -/
lemma Word.not_isSlash (kind : SchemeKind) {c : Char} (mem : c ∈ w) : isSlash kind c = false :=
  word.of_letters (isSlash kind) (by cases kind <;> decide) mem

/-- A word is one segment. -/
lemma Word.splitOn_slash (kind : SchemeKind) : splitOn (isSlash kind) w = [w] :=
  splitOn_of_none fun _ mem => word.not_isSlash kind mem

/-- A word has no gaps. -/
lemma Word.closeGaps_eq : closeGaps w = w :=
  List.filter_eq_self.2 fun _ mem => by rw [word.not_isGap mem]; rfl

/-- A word needs no encoding. -/
lemma Word.percentEncode_eq {set : Char → Bool}
    (none : ∀ n < 0x80, (Char.ofNat n).isAlpha = true → set (Char.ofNat n) = false) :
    percentEncode set w = w := by
  rw [percentEncode]
  refine (List.flatMap_congr fun c mem => ?_).trans (List.flatMap_singleton' w)
  rw [if_neg (Bool.eq_false_iff.1 (word.of_letters set none mem))]

/-- A word is a step down. -/
lemma Word.step_eq : Step.of w = .down w := by
  have plain : '%' ∉ w := word.not_mem (by decide)
  have no_dot : '.' ∉ w := word.not_mem (by decide)
  rw [Step.of, decodeDots_of_not_mem plain]
  split
  · exact absurd List.mem_cons_self no_dot
  · exact absurd List.mem_cons_self no_dot
  · rfl

/-- A word is no drive. -/
lemma Word.drive?_eq : drive? w = none := by
  unfold drive?
  split
  · next c mark =>
    refine if_neg fun drive => ?_
    have letter : mark.isAlpha := word.letter (by simp)
    obtain ⟨-, rfl | rfl⟩ := drive
    all_goals cases letter
  · rfl

/-- A word does not start with a drive. -/
lemma Word.driveBeforeGap?_eq : driveBeforeGap? w = none := by
  have colon : ':' ∉ w := word.not_mem (by decide)
  unfold driveBeforeGap?
  dsimp only
  split
  · next eq _ =>
    have mem : ':' ∈ closeGaps (w.take _) := eq ▸ List.mem_cons_of_mem _ List.mem_cons_self
    exact absurd (List.mem_of_mem_take (List.mem_of_mem_filter mem)) colon
  · rfl

/-- A name of letters goes down. -/
lemma Word.enter_eq (kind : SchemeKind) (trail : Trail) : trail.enter kind w = trail.push w := by
  unfold Trail.enter
  simp only [word.driveBeforeGap?_eq, ite_self, word.closeGaps_eq, word.step_eq, word.drive?_eq]

omit word in
/-- The last segment of a trail stays last. -/
lemma exists_toList (kind : SchemeKind) {trail : Trail} {segments : List (List Char)}
    (ne_nil : w ≠ []) (eq : trail.segments.reverse = segments ++ [w]) :
    ∃ front, trail.toList kind = front ++ [w] := by
  have filled : ¬ List.isEmpty w := by simpa using ne_nil
  obtain ⟨front, dropped⟩ : ∃ front, (segments ++ [w]).dropWhile List.isEmpty = front ++ [w] := by
    rw [List.dropWhile_append, List.dropWhile_cons_of_neg filled]
    split
    · exact ⟨[], rfl⟩
    · exact ⟨_, rfl⟩
  unfold Trail.toList
  rw [eq]
  split
  · next none => rw [dropped] at none; simp at none
  · exact ⟨front, dropped⟩
  · exact ⟨segments, rfl⟩

/-- The trail of a text with a word at its end ends in the word. -/
lemma Word.ofText_eq {kind : SchemeKind} {s : List Char} {init : List (List Char)}
    (pieces : splitOn (isSlash kind) s = init ++ [w]) :
    Trail.ofText kind s = (init.foldl (Trail.enter kind) ⟨[], false⟩).push w := by
  rw [Trail.ofText, pieces, Trail.walk, List.foldl_append, List.foldl_cons, List.foldl_nil,
    word.enter_eq, List.getLast?_concat, Option.map_some, word.closeGaps_eq, word.step_eq]

/-- A path whose last piece is a name has the name for its last segment. -/
lemma Word.exists_pathOf {kind : SchemeKind} {s : List Char} {init : List (List Char)}
    (pieces : splitOn (isSlash kind) s = init ++ [w]) :
    ∃ segments, pathOf kind s = .rooted (segments ++ [w]) := by
  have encoded : percentEncode inPathSet w = w := word.percentEncode_eq (by decide)
  let trail := init.foldl (Trail.enter kind) ⟨[], false⟩
  have segments : (trail.push w).segments.reverse = trail.segments.reverse ++ [w] := by
    rw [Trail.push, encoded, List.reverse_cons]
  obtain ⟨front, eq⟩ := exists_toList kind word.ne_nil segments
  rw [pathOf, word.ofText_eq pieces]
  exact ⟨front, congrArg Path.rooted eq⟩

/-- The path of a text with a word at its end ends in the word. -/
lemma Word.last_pathOf {kind : SchemeKind} {s : List Char} {init : List (List Char)}
    (pieces : splitOn (isSlash kind) s = init ++ [w]) : (pathOf kind s).last = w := by
  obtain ⟨segments, eq⟩ := word.exists_pathOf pieces
  rw [eq]
  exact Path.last_rooted (word.not_mem (by decide)) segments

/-- The path of a word ends in it. -/
lemma Word.last_pathOf_self (kind : SchemeKind) : (pathOf kind w).last = w := by
  have pieces : splitOn (isSlash kind) w = [] ++ [w] := word.splitOn_slash kind
  exact word.last_pathOf pieces

/-- A service is a segment of its own. -/
lemma Word.splitOn_service (kind : SchemeKind) (s : List Char) :
    splitOn (isSlash kind) (s ++ '/' :: w) = splitOn (isSlash kind) s ++ [w] := by
  have slash : isSlash kind '/' = true := by cases kind <;> rfl
  rw [splitOn_append_cons slash, word.splitOn_slash]

/-- The slash at the beginning of a path may be the one in front of the name. -/
lemma Word.splitOn_behindSlash (kind : SchemeKind) (s : List Char) :
    ∃ init, splitOn (isSlash kind)
      ((behindSlash? kind (s ++ '/' :: w)).getD (s ++ '/' :: w)) = init ++ [w] := by
  have slash : isSlash kind '/' = true := by cases kind <;> rfl
  have whole : ∃ init, splitOn (isSlash kind) (s ++ '/' :: w) = init ++ [w] :=
    ⟨_, word.splitOn_service kind s⟩
  by_cases gaps : ∀ c ∈ s, isGap c = true
  · have dropped : (s ++ '/' :: w).dropWhile isGap = '/' :: w :=
      List.dropWhile_append_of_pos gaps
    rw [behindSlash?, dropped]
    dsimp only
    rw [if_pos slash]
    exact ⟨[], word.splitOn_slash kind⟩
  · push Not at gaps
    have dropped : (s ++ '/' :: w).dropWhile isGap = s.dropWhile isGap ++ '/' :: w :=
      dropWhile_append_of_stop gaps
    rw [behindSlash?, dropped]
    cases s.dropWhile isGap with
    | nil =>
      rw [List.nil_append]
      dsimp only
      rw [if_pos slash]
      exact ⟨[], word.splitOn_slash kind⟩
    | cons c rest =>
      rw [List.cons_append]
      dsimp only
      split
      · exact ⟨_, word.splitOn_service kind rest⟩
      · exact whole

/-- The path of a service ends in it. -/
lemma Word.last_pathOf_service (kind : SchemeKind) (s : List Char) :
    (pathOf kind (s ++ '/' :: w)).last = w :=
  word.last_pathOf (word.splitOn_service kind s)

/-- The path of a service ends in it, whether its first slash is passed over or not. -/
lemma Word.last_pathOf_behindSlash (kind : SchemeKind) (s : List Char) :
    (pathOf kind ((behindSlash? kind (s ++ '/' :: w)).getD (s ++ '/' :: w))).last = w := by
  obtain ⟨init, pieces⟩ := word.splitOn_behindSlash kind s
  exact word.last_pathOf pieces

/-- The path of a service behind a host ends in it. -/
lemma Word.last_pathBehindHost (kind : SchemeKind) (s : List Char) :
    (pathBehindHost kind (s ++ '/' :: w)).last = w := by
  unfold pathBehindHost
  split
  · next none => simp at none
  · exact word.last_pathOf_behindSlash _ s

end Word

/-! ## Drives -/

/-- The way through the last segment does not change the drive. -/
lemma drive_walk (kind : SchemeKind) (segments : List (List Char)) :
    (Trail.walk kind segments).drive =
      (segments.foldl (Trail.enter kind) ⟨[], false⟩).drive := by
  unfold Trail.walk
  dsimp only
  split <;> rfl

/-- Empty segments name no drive. -/
lemma foldl_enter_of_nil (kind : SchemeKind) {segments : List (List Char)}
    (empty : ∀ segment ∈ segments, segment = []) (trail : Trail) :
    (segments.foldl (Trail.enter kind) trail).drive = trail.drive := by
  induction segments generalizing trail with
  | nil => rfl
  | cons segment segments ih =>
    obtain ⟨rfl, rest⟩ := List.forall_mem_cons.1 empty
    have no_drive : driveBeforeGap? [] = none ∧ drive? [] = none := ⟨rfl, rfl⟩
    have down : Step.of (closeGaps []) = .down [] := rfl
    have step : trail.enter kind [] = trail.push [] := by
      simp only [Trail.enter, no_drive, ite_self, down]
    rw [List.foldl_cons, ih rest, step]
    rfl

/-- Between slashes all segments are empty. -/
lemma splitOn_slashes {kind : SchemeKind} {slashes : List Char}
    (slash : ∀ c ∈ slashes, isSlash kind c = true) :
    ∀ piece ∈ splitOn (isSlash kind) slashes, piece = [] := by
  induction slashes with
  | nil => simp [splitOn]
  | cons c slashes ih =>
    obtain ⟨first, rest⟩ := List.forall_mem_cons.1 slash
    rw [splitOn, if_pos first]
    exact List.forall_mem_cons.2 ⟨rfl, ih rest⟩

/-- Slashes at the end of a path do not bear on its drive. -/
lemma drive_ofText_slashes {kind : SchemeKind} (s : List Char) {slashes : List Char}
    (slash : ∀ c ∈ slashes, isSlash kind c = true) :
    (Trail.ofText kind (s ++ slashes)).drive = (Trail.ofText kind s).drive := by
  cases slashes with
  | nil => rw [List.append_nil]
  | cons c slashes =>
    obtain ⟨first, rest⟩ := List.forall_mem_cons.1 slash
    rw [Trail.ofText, Trail.ofText, drive_walk, drive_walk, splitOn_append_cons first,
      List.foldl_append, foldl_enter_of_nil kind (splitOn_slashes rest)]

/-- A service does not change the drive. -/
lemma Word.drive_ofText {w : List Char} (word : Word w) (kind : SchemeKind) (s : List Char) :
    (Trail.ofText kind (s ++ '/' :: w)).drive = (Trail.ofText kind s).drive := by
  rw [word.ofText_eq (word.splitOn_service kind s), Trail.ofText, drive_walk]
  rfl

end Url

end Metering
