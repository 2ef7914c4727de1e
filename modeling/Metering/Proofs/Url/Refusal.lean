import Metering.Proofs.Url.Parts

/-!
# Hosts that are refused

A blank or a control character is passed over where a text begins and where it ends, but not where a
host or a port ends. Whatever the host is read from, such a character stays at its end, decoded,
replaced and composed (`composed_concat`), and there it is forbidden. So an authority of a special
scheme that ends with one is refused (`readAddress_of_outer`).
-/

namespace Metering

open Text

namespace Text

/-! ## Composed texts -/

/-- Low characters are no marks. -/
lemma combiningClass_eq_zero {c : Char} (low : c.toNat < 0xC0) : combiningClass c = 0 := by
  rw [combiningClass, if_pos (by omega)]

/-- Low characters are not taken apart. -/
lemma takeApart_eq {c : Char} (low : c.toNat < 0xC0) : takeApart c = [c] := by
  have whole : syllableLetters? c = none := if_neg (by omega)
  have single : pair? c = none := if_pos low
  simp only [takeApart, whole, single]

/-- A character that is no mark keeps the last place. -/
lemma placeMark_concat {d : Char} (class_d : combiningClass d = 0) (c : Char) (s : List Char) :
    placeMark c (s ++ [d]) = placeMark c s ++ [d] := by
  induction s with
  | nil =>
    have last : ¬ (0 < combiningClass d ∧ combiningClass d < combiningClass c) := by omega
    exact if_neg last
  | cons e s ih =>
    rw [List.cons_append, placeMark, placeMark]
    split
    · rw [ih, List.cons_append]
    · rfl

/-- A character that is no mark stays last when marks are ordered. -/
lemma orderMarks_concat {d : Char} (class_d : combiningClass d = 0) (s : List Char) :
    orderMarks (s ++ [d]) = orderMarks s ++ [d] := by
  induction s with
  | nil => rfl
  | cons c s ih =>
    calc orderMarks (c :: s ++ [d]) = placeMark c (orderMarks (s ++ [d])) := rfl
      _ = placeMark c (orderMarks s) ++ [d] := by rw [ih, placeMark_concat class_d]

/-- A low character stays last when characters are joined. -/
lemma joinAll_concat {d : Char} (low : d.toNat < 0xC0) (letter : Char) (kept s : List Char) :
    ∃ front, joinAll letter kept (s ++ [d]) = front ++ [d] := by
  have apart (letter : Char) : join? letter d = none := if_pos (by omega)
  have class_d := combiningClass_eq_zero low
  induction s generalizing letter kept with
  | nil =>
    refine ⟨letter :: kept, ?_⟩
    rw [List.nil_append, joinAll, apart, ite_self, if_pos class_d]
    rfl
  | cons c s ih =>
    rw [List.cons_append, joinAll]
    split
    · exact ih _ _
    · split
      · obtain ⟨front, eq⟩ := ih c []
        refine ⟨letter :: kept ++ front, ?_⟩
        rw [eq, List.append_assoc]
      · exact ih _ _

/-- Nothing is put together with a character below the letters that carry marks. -/
lemma composed_concat {d : Char} (low : d.toNat < 0xC0) (s : List Char) :
    ∃ front, composed (s ++ [d]) = front ++ [d] := by
  rw [composed, List.flatMap_append, List.flatMap_singleton, takeApart_eq low,
    orderMarks_concat (combiningClass_eq_zero low)]
  cases orderMarks (s.flatMap takeApart) with
  | nil => exact ⟨[], rfl⟩
  | cons c rest => exact joinAll_concat low c [] rest

/-! ## Bytes -/

/-- Continuation bytes are not low. -/
lemma le_of_isContinuation {b : UInt8} (continues : isContinuation b = true) : 0x80 ≤ b := by
  simp only [isContinuation, Bool.and_eq_true, decide_eq_true_eq] at continues
  exact continues.1

/-- Bytes that follow the first one of a character are not low. -/
lemma le_of_mayFollow {first b : UInt8} (follows : mayFollow first b = true) : 0x80 ≤ b := by
  simp only [mayFollow, Bool.and_eq_true, decide_eq_true_eq, UInt8.le_iff_toNat_le] at follows
  rw [UInt8.le_iff_toNat_le]
  refine le_trans ?_ follows.1
  split
  · decide
  · split <;> decide

/-- A byte of one character on its own is not read as a part of the character before it. -/
lemma readUtf8_cons {b : UInt8} (low : b < 0x80) (first : UInt8) (bytes : List UInt8) :
    ∃ c k, readUtf8 (first :: (bytes ++ [b])) = c :: readUtf8 (bytes.drop k ++ [b]) := by
  have inner : isContinuation b = false :=
    Bool.eq_false_iff.2 fun continues => UInt8.not_lt.2 (le_of_isContinuation continues) low
  have outer : mayFollow first b = false :=
    Bool.eq_false_iff.2 fun follows => UInt8.not_lt.2 (le_of_mayFollow follows) low
  rw [readUtf8.eq_def]
  -- up to three more bytes decide how far the first character goes
  rcases bytes with _ | ⟨c, _ | ⟨d, _ | ⟨e, bytes⟩⟩⟩
  all_goals
    simp only [List.nil_append, List.cons_append, inner, outer, Bool.false_eq_true, if_false]
    repeat' split
    all_goals first
      | exact ⟨_, 0, rfl⟩
      | exact ⟨_, 1, rfl⟩
      | exact ⟨_, 2, rfl⟩
      | exact ⟨_, 3, rfl⟩

/-- A low byte at the end is read as its character. -/
lemma readUtf8_concat {b : UInt8} (low : b < 0x80) (bytes : List UInt8) :
    ∃ front, readUtf8 (bytes ++ [b]) = front ++ [some (Char.ofNat b.toNat)] := by
  induction length : bytes.length using Nat.strong_induction_on generalizing bytes with
  | _ n ih =>
    cases bytes with
    | nil =>
      refine ⟨[], ?_⟩
      rw [List.nil_append, readUtf8, if_pos low, readUtf8]
      rfl
    | cons first bytes =>
      obtain ⟨c, k, step⟩ := readUtf8_cons low first bytes
      have shorter : (bytes.drop k).length < n := by
        rw [← length, List.length_cons, List.length_drop]
        omega
      obtain ⟨front, eq⟩ := ih _ shorter _ rfl
      refine ⟨c :: front, ?_⟩
      rw [List.cons_append, step, eq, List.cons_append]

/-- A text with a low byte at its end ends with its character. -/
lemma ofUtf8?_concat {b : UInt8} (low : b < 0x80) {bytes : List UInt8} {s : List Char}
    (decoded : ofUtf8? (bytes ++ [b]) = some s) : ∃ front, s = front ++ [Char.ofNat b.toNat] := by
  obtain ⟨front, read⟩ := readUtf8_concat low bytes
  rw [ofUtf8?, read, List.mapM_append] at decoded
  cases others : front.mapM id with
  | none => rw [others] at decoded; cases decoded
  | some a =>
    rw [others] at decoded
    exact ⟨a, (Option.some.inj decoded).symm⟩

end Text

namespace Url

/-- A low character is one byte. -/
lemma utf8EncodeChar_eq {c : Char} (low : c.toNat < 0x80) :
    String.utf8EncodeChar c = [UInt8.ofNat c.toNat] := by
  have small : c.val.toNat ≤ 0x7F := by
    have : c.val.toNat = c.toNat := rfl
    omega
  simp only [String.utf8EncodeChar]
  rw [if_pos small]
  rfl

/-- A character other than the percent sign is decoded as itself. -/
lemma percentDecode_cons {c : Char} (other : c ≠ '%') (s : List Char) :
    percentDecode (c :: s) = String.utf8EncodeChar c ++ percentDecode s := by
  rw [percentDecode]
  intro a b rest eq
  exact absurd eq other

/-- A character that is no digit of a byte is decoded as it stands. -/
lemma percentDecode_concat {c : Char} (low : c.toNat < 0x80) (inert : hexValue? c = none)
    (sign : c ≠ '%') (s : List Char) :
    percentDecode (s ++ [c]) = percentDecode s ++ [UInt8.ofNat c.toNat] := by
  have single := utf8EncodeChar_eq low
  fun_induction percentDecode s with
  | case1 =>
    rw [List.nil_append, percentDecode_cons sign, single]
    rfl
  | case2 a b rest high low' high_eq low_eq ih =>
    simp only [List.cons_append, percentDecode, high_eq, low_eq, ih]
  -- a percent sign without two digits stands for itself, whatever follows
  | case3 a b rest none_ ih =>
    rw [List.cons_append, List.cons_append, List.cons_append, percentDecode]
    split
    · next high low' high_eq low_eq => exact absurd low_eq (none_ high low' high_eq)
    · rw [← List.cons_append, ← List.cons_append, ih, List.append_assoc]
  | case4 d rest not_sign ih =>
    by_cases other : d = '%'
    · -- a percent sign with less than two characters behind it
      subst other
      rcases rest with _ | ⟨a, _ | ⟨b, rest⟩⟩
      · have alone : percentDecode ['%', c] = String.utf8EncodeChar '%' ++ percentDecode [c] := by
          rw [percentDecode]
          intro a b rest eq more
          cases more
        rw [List.cons_append, List.nil_append, alone, percentDecode_cons sign, single]
        rfl
      · have bare : percentDecode ['%', a, c] =
            String.utf8EncodeChar '%' ++ percentDecode [a, c] := by
          rw [percentDecode, inert]
          cases hexValue? a <;> rfl
        rw [List.cons_append, List.singleton_append, bare]
        exact (congrArg _ ih).trans (List.append_assoc ..).symm
      · exact absurd rfl (not_sign a b rest rfl)
    · rw [List.cons_append, percentDecode_cons other, ih, List.append_assoc]

/-! ## Hosts -/

/-- What holds of all blanks and controls holds of each. -/
lemma of_isOuter {p : Char → Bool} (all : ∀ n ≤ 0x20, p (Char.ofNat n) = true) {c : Char}
    (outer : isOuter c) : p c = true := by
  have found := all c.toNat (of_decide_eq_true outer)
  rwa [Char.ofNat_toNat] at found

/-- Characters that are trimmed are none of the others. -/
lemma ne_of_isOuter {c d : Char} (outer : isOuter c) (inner : ¬ isOuter d) : c ≠ d :=
  fun same => inner (same ▸ outer)

section Outer

variable {c : Char} (outer : isOuter c)
include outer

/-- A domain with a blank at its end is refused. -/
lemma toAscii?_of_outer (s : List Char) : Domain.toAscii? (s ++ [c]) = none := by
  have kept : Domain.mapped? c = some [c] :=
    of_decide_eq_true (of_isOuter (p := fun c => Domain.mapped? c = some [c]) (by decide) outer)
  have forbidden : Domain.isForbidden c := of_isOuter (by decide) outer
  have low : c.toNat < 0xC0 := by
    have small : c.toNat ≤ 0x20 := of_decide_eq_true outer
    omega
  rw [Domain.toAscii?, Domain.labels?]
  cases others : s.mapM Domain.mapped? with
  | none =>
    rw [List.mapM_append, others]
    rfl
  | some front =>
    have mapped : (s ++ [c]).mapM Domain.mapped? = some (front ++ [[c]]) := by
      rw [List.mapM_append, others, List.mapM_cons, kept]
      rfl
    obtain ⟨text, composed⟩ := composed_concat low front.flatten
    have found : (Text.composed (front ++ [[c]]).flatten).any Domain.isForbidden = true := by
      rw [List.flatten_append, List.flatten_singleton, composed, List.any_append]
      simp [forbidden]
    rw [mapped, Option.bind_eq_bind, Option.bind_some]
    dsimp only
    rw [found]
    rfl

/-- Behind a bracket a host has to end with the other one. -/
lemma bracketed?_of_outer (s : List Char) :
    Host.bracketed? (s ++ [c]) = none ∨ Host.bracketed? (s ++ [c]) = some (.error .address6) := by
  have not_closing : c ≠ ']' := ne_of_isOuter outer (by decide)
  cases s with
  | nil =>
    have not_opening : c ≠ '[' := ne_of_isOuter outer (by decide)
    left
    simp only [List.nil_append, Host.bracketed?]
    split
    · next eq => exact absurd (List.cons.inj eq).1 not_opening
    · rfl
  | cons d s =>
    by_cases opening : d = '['
    · right
      subst opening
      have open_end : (s ++ [c]).getLast? ≠ some ']' := by simpa using not_closing
      simp only [List.cons_append, Host.bracketed?, if_neg open_end]
    · left
      simp only [List.cons_append, Host.bracketed?]
      split
      · next eq => exact absurd (List.cons.inj eq).1 opening
      · rfl

/-- A host with a blank at its end is refused. -/
lemma ofText_of_outer (s : List Char) : ∃ e, Host.ofText (s ++ [c]) = .error e := by
  have low : c.toNat < 0x80 := by
    have small : c.toNat ≤ 0x20 := of_decide_eq_true outer
    omega
  have inert : hexValue? c = none :=
    of_decide_eq_true (of_isOuter (p := fun c => hexValue? c = none) (by decide) outer)
  have sign : c ≠ '%' := ne_of_isOuter outer (by decide)
  rw [Host.ofText]
  rcases bracketed?_of_outer outer s with plain | refused
  · rw [plain, percentDecode_concat low inert sign]
    cases decoded : ofUtf8? (percentDecode s ++ [UInt8.ofNat c.toNat]) with
    | none => exact ⟨.domain, rfl⟩
    | some name =>
      have byte : (UInt8.ofNat c.toNat).toNat = c.toNat := by
        rw [UInt8.toNat_ofNat']
        omega
      have byte_low : UInt8.ofNat c.toNat < 0x80 := by
        rw [UInt8.lt_iff_toNat_lt, byte]
        exact low
      obtain ⟨front, rfl⟩ := ofUtf8?_concat byte_low decoded
      rw [byte, Char.ofNat_toNat]
      refine ⟨.domain, ?_⟩
      simp only [toAscii?_of_outer outer]
      rfl
  · rw [refused]
    exact ⟨.address6, rfl⟩

end Outer

/-! ## Authorities -/

/-- What stands behind the last sign belongs to the address. -/
lemma splitUser_snd_append (a : List Char) {b : List Char} (not_mem : '@' ∉ b) :
    (splitUser (a ++ b)).2 = (splitUser a).2 ++ b := by
  have passed : ∀ c ∈ b.reverse, (c != '@') = true := by
    intro c mem
    exact bne_iff_ne.2 fun eq => not_mem (eq ▸ List.mem_reverse.1 mem)
  unfold splitUser
  rw [List.reverse_append, List.dropWhile_append_of_pos passed]
  split
  · rfl
  · simp [List.takeWhile_append_of_pos passed]

/-- The address is part of the authority. -/
lemma splitUser_snd_subset (s : List Char) : (splitUser s).2 ⊆ s := by
  unfold splitUser
  split
  · exact List.Subset.refl s
  · intro c mem
    exact List.mem_reverse.1 ((List.takeWhile_prefix _).subset (List.mem_reverse.1 mem))

/-- Without a colon there is no port. -/
lemma splitPort_of_not_mem (inBrackets : Bool) {s : List Char} (not_mem : ':' ∉ s) :
    splitPort inBrackets s = (s, none) := by
  induction s generalizing inBrackets with
  | nil => rfl
  | cons c s ih =>
    have other : ¬ (c = ':' ∧ !inBrackets) := fun colon => not_mem (colon.1 ▸ List.mem_cons_self)
    rw [splitPort, if_neg other, ih _ (List.not_mem_of_not_mem_cons not_mem)]

/-- What stands behind an address belongs to its port, or to its host where it has none. -/
lemma splitPort_append (inBrackets : Bool) (a : List Char) {b : List Char} (not_mem : ':' ∉ b) :
    splitPort inBrackets (a ++ b) =
      match splitPort inBrackets a with
      | (host, none) => (host ++ b, none)
      | (host, some port) => (host, some (port ++ b)) := by
  induction a generalizing inBrackets with
  | nil => exact splitPort_of_not_mem inBrackets not_mem
  | cons c a ih =>
    rw [List.cons_append, splitPort, splitPort]
    split
    · rfl
    · rw [ih]
      rcases splitPort (c == '[' || (inBrackets && c != ']')) a with ⟨host, _ | port⟩ <;> rfl

/-- The port is part of the address. -/
lemma splitPort_snd_subset {inBrackets : Bool} {s port : List Char}
    (eq : (splitPort inBrackets s).2 = some port) : port ⊆ s := by
  induction s generalizing inBrackets with
  | nil => cases eq
  | cons c s ih =>
    rw [splitPort] at eq
    split at eq
    · obtain rfl := Option.some.inj eq
      exact List.subset_cons_self c s
    · exact List.Subset.trans (ih eq) (List.subset_cons_self c s)

/-- A port with a blank at its end is refused. -/
lemma portOf_of_outer {c : Char} (outer : isOuter c) (s : List Char) :
    portOf (s ++ [c]) = .error .port := by
  have no_digit : (!isDigit c) = true :=
    of_isOuter (p := fun c => !isDigit c) (by decide) outer
  simp only [Bool.not_eq_true'] at no_digit
  simp [portOf, no_digit]

/-- Behind a host or a port nothing is passed over. -/
theorem readAddress_of_outer {a blanks : List Char} (plain : '\\' ∉ a) (ne_nil : blanks ≠ [])
    (outer : ∀ c ∈ blanks, isOuter c) : ∃ e, readAddress .special (a ++ blanks) = .error e := by
  have not_mem {c : Char} (inner : ¬ isOuter c) : c ∉ blanks := fun mem => inner (outer c mem)
  obtain ⟨front, c, rfl⟩ := blanks.eq_nil_or_concat'.resolve_left ne_nil
  have outer_c : isOuter c := outer c (by simp)
  have address := splitPort_append false (splitUser a).2 (not_mem (c := ':') (by decide))
  rw [← splitUser_snd_append a (not_mem (c := '@') (by decide))] at address
  change addressOf (a ++ (front ++ [c])) = _ at address
  rcases read : splitPort false (splitUser a).2 with ⟨host, _ | port⟩
  · -- the blanks are behind the host
    have address : addressOf (a ++ (front ++ [c])) = (host ++ (front ++ [c]), none) := by
      rwa [read] at address
    obtain ⟨e, refused⟩ := ofText_of_outer outer_c (host ++ front)
    rw [List.append_assoc] at refused
    simp only [readAddress, address, refused]
    split
    · exact ⟨.emptyHost, rfl⟩
    · exact ⟨e, rfl⟩
  · -- the blanks are behind the port
    have address : addressOf (a ++ (front ++ [c])) = (host, some (port ++ (front ++ [c]))) := by
      rwa [read] at address
    have port_plain : '\\' ∉ port := fun mem =>
      plain (splitUser_snd_subset a (splitPort_snd_subset (congrArg Prod.snd read) mem))
    have portText : portTextOf (a ++ (front ++ [c])) = (port ++ front) ++ [c] := by
      rw [portTextOf, address, List.append_assoc]
      exact takeWhile_of_not_mem (List.not_mem_append port_plain (not_mem (by decide)))
    simp only [readAddress, portText, portOf_of_outer outer_c, address]
    split
    · exact ⟨.emptyHost, rfl⟩
    · cases Host.ofText host with
      | error e => exact ⟨e, rfl⟩
      | ok host => exact ⟨.port, rfl⟩

end Url

end Metering
