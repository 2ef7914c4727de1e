import Metering.Proofs.Text.Utf8

/-!
# Edges of characters

The positions among the bytes of a text at which it can be cut. They are those behind the whole
characters of a prefix (`isEdge_utf8_iff`), and any piece of a text lies between two of them
(`Slice.of_isInfix`). Main statement: `clips_clip`. The way back from a budget of bytes ends at an
edge without passing the beginning, and what stands before it is the longest prefix of whole
characters that fits.
-/

namespace Metering.Text

/-! ## Bytes of characters -/

@[simp] lemma utf8_nil : utf8 [] = [] := rfl

@[simp] lemma utf8_cons (c : Char) (s : List Char) :
    utf8 (c :: s) = String.utf8EncodeChar c ++ utf8 s := rfl

/-- The bytes of joined texts are the joined bytes. -/
@[simp] lemma utf8_append (p s : List Char) : utf8 (p ++ s) = utf8 p ++ utf8 s :=
  List.flatMap_append ..

/-- Only the first byte of a character is none that continues one. -/
lemma exists_bytes (c : Char) : ∃ first rest, String.utf8EncodeChar c = first :: rest ∧
    isContinuation first = false ∧ ∀ b ∈ rest, isContinuation b = true := by
  have valid : c.val.toNat < 0x110000 := by
    obtain low | ⟨-, high⟩ : c.val.toNat < 0xD800 ∨ 0xDFFF < c.val.toNat ∧ c.val.toNat < 0x110000 :=
      c.valid
    · omega
    · exact high
  simp only [String.utf8EncodeChar]
  generalize c.val.toNat = v at valid ⊢
  have starts {n : ℕ} (small : n < 256) (outside : n < 0x80 ∨ 0xBF < n) :
      isContinuation (UInt8.ofNat n) = false := by
    rw [Bool.eq_false_iff, Ne, isContinuation_iff, toNat_ofNat_of_lt small]
    omega
  have none : ∀ b ∈ ([] : List UInt8), isContinuation b = true := fun _ mem => nomatch mem
  have more {n : ℕ} {rest : List UInt8} (continue_ : ∀ b ∈ rest, isContinuation b = true) :
      ∀ b ∈ UInt8.ofNat (n % 64 + 128) :: rest, isContinuation b = true :=
    List.forall_mem_cons.2 ⟨isContinuation_ofNat n, continue_⟩
  -- one case for each number of bytes
  split
  · exact ⟨_, _, rfl, starts (by omega) (by omega), none⟩
  · split
    · exact ⟨_, _, rfl, starts (by omega) (by omega), more none⟩
    · split
      · exact ⟨_, _, rfl, starts (by omega) (by omega), more (more none)⟩
      · exact ⟨_, _, rfl, starts (by omega) (by omega), more (more (more none))⟩

/-- No text begins with a byte that continues a character. -/
lemma isContinuation_head_utf8 (s : List Char) : ∀ b ∈ (utf8 s).head?, isContinuation b = false := by
  cases s with
  | nil => simp
  | cons c s =>
    obtain ⟨first, rest, bytes, starts, -⟩ := exists_bytes c
    simp [bytes, starts]

/-! ## Edges -/

/-- In a text, an edge is where no byte continues a character. -/
lemma isEdge_utf8 (s : List Char) (n : ℕ) : isEdge (utf8 s) n = true ↔
    n ≤ (utf8 s).length ∧ ∀ b ∈ (utf8 s)[n]?, isContinuation b = false := by
  cases n with
  | zero =>
    have starts := isContinuation_head_utf8 s
    rw [List.head?_eq_getElem?] at starts
    exact iff_of_true rfl ⟨Nat.zero_le _, starts⟩
  | succ n =>
    rw [isEdge]
    cases at_n : (utf8 s)[n + 1]? with
    | none =>
      have outside : (utf8 s).length ≤ n + 1 := List.getElem?_eq_none_iff.1 at_n
      simp
      omega
    | some b =>
      have inside : n + 1 < (utf8 s).length := (List.getElem?_eq_some_iff.1 at_n).1
      simp [inside.le]

/-- The beginnings of a text take its first character or nothing. -/
lemma exists_prefix_cons_iff {c : Char} {s : List Char} {n : ℕ} :
    (∃ p, p <+: c :: s ∧ (utf8 p).length = n) ↔
      n = 0 ∨ ∃ p, p <+: s ∧ (utf8 p).length + (String.utf8EncodeChar c).length = n := by
  constructor
  · rintro ⟨p, isPrefix, size⟩
    cases p with
    | nil => exact .inl size.symm
    | cons d p =>
      obtain ⟨rfl, within⟩ := List.cons_prefix_cons.1 isPrefix
      rw [utf8_cons, List.length_append, Nat.add_comm] at size
      exact .inr ⟨p, within, size⟩
  · rintro (rfl | ⟨p, isPrefix, rfl⟩)
    · exact ⟨[], List.nil_prefix, rfl⟩
    · refine ⟨c :: p, List.cons_prefix_cons.2 ⟨rfl, isPrefix⟩, ?_⟩
      rw [utf8_cons, List.length_append, Nat.add_comm]

/-- The edges are the positions behind whole characters. -/
theorem isEdge_utf8_iff (s : List Char) (n : ℕ) :
    isEdge (utf8 s) n = true ↔ ∃ p, p <+: s ∧ (utf8 p).length = n := by
  induction s generalizing n with
  | nil => cases n <;> simp [isEdge]
  | cons c s ih =>
    obtain ⟨first, rest, bytes, -, continue_⟩ := exists_bytes c
    rw [exists_prefix_cons_iff, bytes, List.length_cons]
    by_cases beginning : n = 0
    · exact iff_of_true (by simp [isEdge, beginning]) (.inl beginning)
    rw [or_iff_right beginning]
    by_cases inside : n < rest.length + 1
    · -- within the character every byte continues it
      have inner : (utf8 (c :: s))[n]? = some rest[n - 1] := by
        rw [utf8_cons, bytes, List.getElem?_append_left (by simpa using inside),
          List.getElem?_cons, if_neg beginning, List.getElem?_eq_getElem]
      refine iff_of_false ?_ (by rintro ⟨p, -, size⟩; omega)
      rw [isEdge_utf8, inner]
      rintro ⟨-, edge⟩
      have continues := continue_ _ (List.getElem_mem (by omega : n - 1 < rest.length))
      exact absurd continues (Bool.eq_false_iff.1 (edge _ rfl))
    -- behind the first character an edge is one of the rest
    · obtain ⟨m, rfl⟩ : ∃ m, n = m + (rest.length + 1) := ⟨n - (rest.length + 1), by omega⟩
      have behind : (utf8 (c :: s))[m + (rest.length + 1)]? = (utf8 s)[m]? := by
        rw [utf8_cons, bytes, List.getElem?_append_right (by simp)]
        simp
      have shift : isEdge (utf8 (c :: s)) (m + (rest.length + 1)) = true ↔
          isEdge (utf8 s) m = true := by
        rw [isEdge_utf8, isEdge_utf8, behind, utf8_cons, List.length_append, bytes,
          List.length_cons]
        exact and_congr_left fun _ => by omega
      rw [shift, ih]
      simp only [Nat.add_right_cancel_iff]

/-- What stands before an edge is a prefix of whole characters. -/
lemma exists_prefix_of_isEdge {s : List Char} {n : ℕ} (edge : isEdge (utf8 s) n = true) :
    ∃ p, p <+: s ∧ (utf8 s).take n = utf8 p ∧ (utf8 p).length = n := by
  obtain ⟨p, ⟨rest, rfl⟩, rfl⟩ := (isEdge_utf8_iff s n).1 edge
  exact ⟨p, List.prefix_append .., by simp, rfl⟩

/-- The bytes of a piece, from one edge of a text to another. -/
structure Slice (s piece : List Char) (i j : ℕ) : Prop where
  first : isEdge (utf8 s) i = true
  last : isEdge (utf8 s) j = true
  le : i ≤ j
  bytes : ((utf8 s).take j).drop i = utf8 piece

/-- The middle of a text is the slice between the edges around it. -/
lemma Slice.of_append (before piece behind : List Char) :
    Slice (before ++ piece ++ behind) piece (utf8 before).length
      (utf8 (before ++ piece)).length where
  first := (isEdge_utf8_iff ..).2 ⟨before, ⟨piece ++ behind, (List.append_assoc ..).symm⟩, rfl⟩
  last := (isEdge_utf8_iff ..).2 ⟨before ++ piece, ⟨behind, rfl⟩, rfl⟩
  le := by simp
  bytes := by
    rw [utf8_append (before ++ piece), List.take_left, utf8_append, List.drop_left]

/-- Every piece of a text lies between two edges. -/
lemma Slice.of_isInfix {s piece : List Char} (isInfix : piece <:+: s) :
    ∃ i j, Slice s piece i j := by
  obtain ⟨before, behind, rfl⟩ := isInfix
  exact ⟨_, _, .of_append before piece behind⟩

/-! ## The way back -/

/-- The way back from a position, byte by byte, to the first edge. No step leads back from the
beginning. -/
inductive BacksOff (bytes : List UInt8) : ℕ → ℕ → Prop where
  | stop {n : ℕ} (edge : isEdge bytes n = true) : BacksOff bytes n n
  | back {n m : ℕ} (inner : isEdge bytes (n + 1) = false) (rest : BacksOff bytes n m) :
      BacksOff bytes (n + 1) m

/-- The edge before a place is found by backing off. -/
lemma backsOff_edgeBefore (bytes : List UInt8) (n : ℕ) : BacksOff bytes n (edgeBefore bytes n) := by
  induction n with
  | zero => exact .stop rfl
  | succ n ih =>
    rw [edgeBefore]
    split
    · next edge => exact .stop edge
    · next inner => exact .back (Bool.eq_false_iff.2 inner) ih

namespace BacksOff

variable {bytes : List UInt8} {n m : ℕ}

/-- Backing off ends at an edge. -/
lemma isEdge (way : BacksOff bytes n m) : isEdge bytes m = true := by
  induction way with
  | stop edge => exact edge
  | back _ _ ih => exact ih

/-- Backing off never goes ahead. -/
lemma le (way : BacksOff bytes n m) : m ≤ n := by
  induction way with
  | stop => exact le_rfl
  | back _ _ ih => exact Nat.le_succ_of_le ih

/-- No edge is passed. -/
lemma le_of_isEdge (way : BacksOff bytes n m) {k : ℕ} (le : k ≤ n)
    (edge : Text.isEdge bytes k = true) : k ≤ m := by
  induction way with
  | stop => exact le
  | @back n m inner _ ih =>
    refine ih (Nat.le_of_lt_succ (lt_of_le_of_ne le ?_))
    rintro rfl
    exact absurd edge (Bool.eq_false_iff.1 inner)

end BacksOff

/-! ## Clipping -/

/-- What is kept of a text if no more bytes than a budget are. -/
structure Clips (budget : ℕ) (s kept : List Char) : Prop where
  /-- A text that fits is kept. -/
  whole : (utf8 s).length ≤ budget → kept = s
  isPrefix : kept <+: s
  fits : (utf8 kept).length ≤ budget
  longest {p : List Char} : p <+: s → (utf8 p).length ≤ budget → p <+: kept
  /-- Of a longer text all but three bytes of the budget are filled. -/
  fills : budget < (utf8 s).length → budget ≤ (utf8 kept).length + 3
  /-- A longer text is cut where the way back from the budget ends, between two characters. -/
  cut : budget < (utf8 s).length → ∃ n, BacksOff (utf8 s) budget n ∧ isEdge (utf8 s) n = true ∧
    (utf8 s).take n = utf8 kept

/-- A prefix that leaves out a character of at most four bytes for want of room is nearly full. -/
lemma fills_of_longest {budget : ℕ} {s kept : List Char} (isPrefix : kept <+: s)
    (longest : ∀ p, p <+: s → (utf8 p).length ≤ budget → p <+: kept)
    (long : budget < (utf8 s).length) (fits : (utf8 kept).length ≤ budget) :
    budget ≤ (utf8 kept).length + 3 := by
  obtain ⟨rest, rfl⟩ := isPrefix
  cases rest with
  | nil =>
    rw [List.append_nil] at long
    omega
  | cons c rest =>
    by_contra room
    have size := c.utf8Size_le_four
    have more := longest (kept ++ [c]) ⟨rest, by simp⟩ (by simp; omega)
    have shorter := more.length_le
    rw [List.length_append, List.length_singleton] at shorter
    omega

/-- Of two prefixes the one with no more bytes is a prefix of the other. -/
lemma prefix_of_size_le {s p q : List Char} (isPrefix : p <+: s) (isPrefix' : q <+: s)
    (le : (utf8 p).length ≤ (utf8 q).length) : p <+: q := by
  obtain here | ⟨rest, rfl⟩ := List.prefix_or_prefix_of_prefix isPrefix isPrefix'
  · exact here
  · cases rest with
    | nil => rw [List.append_nil]
    | cons c rest =>
      obtain ⟨first, more, bytes, -⟩ := exists_bytes c
      rw [utf8_append, utf8_cons, bytes, List.length_append, List.cons_append,
        List.length_cons] at le
      omega

/-- A clipped text is the longest prefix of whole characters that fits. -/
theorem clips_clip (budget : ℕ) (s : List Char) : Clips budget s (clip budget s) := by
  by_cases long : budget < (utf8 s).length
  · have way := backsOff_edgeBefore (utf8 s) budget
    obtain ⟨kept, isPrefix, bytes, size⟩ := exists_prefix_of_isEdge way.isEdge
    have clipped : clip budget s = kept := by
      rw [clip, if_neg (Nat.not_le.2 long), bytes, ofUtf8Lossy_utf8]
    rw [clipped]
    have fits : (utf8 kept).length ≤ budget := size ▸ way.le
    -- a longer prefix that fits would end at an edge that backing off has passed
    have longest (p : List Char) (before : p <+: s) (small : (utf8 p).length ≤ budget) :
        p <+: kept := by
      refine prefix_of_size_le before isPrefix ?_
      rw [size]
      exact way.le_of_isEdge small ((isEdge_utf8_iff ..).2 ⟨p, before, rfl⟩)
    exact
      { whole := fun short => absurd long (Nat.not_lt.2 short)
        isPrefix, fits
        longest := fun {p} => longest p
        fills := fun long => fills_of_longest isPrefix longest long fits
        cut := fun _ => ⟨_, way, way.isEdge, bytes⟩ }
  · have short : (utf8 s).length ≤ budget := Nat.not_lt.1 long
    have clipped : clip budget s = s := if_pos short
    rw [clipped]
    exact
      { whole := fun _ => rfl
        isPrefix := List.prefix_rfl
        fits := short
        longest := fun before _ => before
        fills := fun long' => absurd long' long
        cut := fun long' => absurd long' long }

end Metering.Text
