import Metering.Proofs.Text.Utf8
import Metering.Proofs.Url.Refusal
import Metering.Proofs.Url.Path

/-!
# Reading forms

The pairs of texts that a query stands for (`Form.pairs`). Each text is read back as it was
(`Form.decode_encode`), and pairs that are added to a query stand behind those that it had before
(`queryPairs_addPairs`).
-/

namespace Metering.Url

open Text

namespace Form

/-- A plus sign stands for a space. -/
def spaced (c : Char) : Char :=
  if c = '+' then ' ' else c

/-- The text that a part of a query stands for. -/
def decode (s : List Char) : String :=
  String.ofList (ofUtf8Lossy (percentDecode (s.map spaced)))

/-- The pair before and behind the first equals sign. -/
def pairOf (piece : List Char) : String × String :=
  (decode (cut '=' piece).1, decode ((cut '=' piece).2.getD []))

/-- The pairs between the ampersands of a query. -/
def pairs (query : List Char) : List (String × String) :=
  ((splitOn (· == '&') query).filter (!·.isEmpty)).map pairOf

/-! ## Texts -/

/-- What holds of all small numbers holds of all bytes. -/
lemma forall_byte {p : UInt8 → Bool} (all : ∀ n < 256, p (UInt8.ofNat n) = true) (b : UInt8) :
    p b = true := by
  have found := all b.toNat b.toNat_lt
  rwa [UInt8.ofNat_toNat] at found

/-- A byte that stands for itself is neither a plus nor a percent sign. -/
lemma plain_byte {b : UInt8} (plain : isPlain b = true) :
    spaced (Char.ofNat b.toNat) = Char.ofNat b.toNat ∧ Char.ofNat b.toNat ≠ '%' ∧
      String.utf8EncodeChar (Char.ofNat b.toNat) = [b] := by
  have all := forall_byte (p := fun b => !isPlain b ||
    decide (spaced (Char.ofNat b.toNat) = Char.ofNat b.toNat ∧ Char.ofNat b.toNat ≠ '%' ∧
      String.utf8EncodeChar (Char.ofNat b.toNat) = [b])) (by decide +kernel) b
  simpa [plain] using all

/-- A byte in percent form is decoded to itself. -/
lemma percentDecode_percentByte (b : UInt8) (s : List Char) :
    percentDecode ((percentByte b).map spaced ++ s) = b :: percentDecode s := by
  have spaced_eq : (percentByte b).map spaced = percentByte b :=
    of_decide_eq_true (forall_byte (p := fun b => (percentByte b).map spaced = percentByte b)
      (by decide +kernel) b)
  have digit : ∀ n < 16, hexValue? (hexDigit n) = some n := by decide
  have small := b.toNat_lt
  have whole : UInt8.ofNat (16 * (b.toNat / 16) + b.toNat % 16) = b := by
    rw [Nat.div_add_mod, UInt8.ofNat_toNat]
  rw [spaced_eq, percentByte]
  simp only [List.cons_append, List.nil_append, percentDecode, digit (b.toNat / 16) (by omega),
    digit (b.toNat % 16) (by omega), whole]

/-- An encoded byte is decoded to itself. -/
lemma percentDecode_encodeByte (b : UInt8) (s : List Char) :
    percentDecode ((encodeByte b).map spaced ++ s) = b :: percentDecode s := by
  rw [encodeByte]
  split
  · next space =>
    subst space
    exact percentDecode_cons (by decide) s
  · split
    · next plain =>
      obtain ⟨same, sign, bytes⟩ := plain_byte plain
      rw [List.map_singleton, same, List.singleton_append, percentDecode_cons sign, bytes]
      rfl
    · exact percentDecode_percentByte b s

/-- A text is read back as it was. -/
theorem decode_encode (s : String) : decode (encode s) = s := by
  have bytes (bs : List UInt8) : percentDecode ((bs.flatMap encodeByte).map spaced) = bs := by
    induction bs with
    | nil => rfl
    | cons b bs ih => rw [List.flatMap_cons, List.map_append, percentDecode_encodeByte, ih]
  rw [decode, encode, bytes, ofUtf8Lossy_utf8, String.ofList_toList]

/-- The signs between texts and between pairs are encoded in a text. -/
lemma not_mem_encode (s : String) : '&' ∉ encode s ∧ '=' ∉ encode s := by
  have each (b : UInt8) : '&' ∉ encodeByte b ∧ '=' ∉ encodeByte b :=
    of_decide_eq_true (forall_byte (p := fun b => '&' ∉ encodeByte b ∧ '=' ∉ encodeByte b)
      (by decide +kernel) b)
  simp only [encode, List.mem_flatMap, not_exists, not_and]
  exact ⟨fun b _ => (each b).1, fun b _ => (each b).2⟩

/-! ## Pairs -/

/-- A pair is read back from its text. -/
lemma pairOf_encodePair (pair : String × String) : pairOf (encodePair pair) = pair := by
  rw [pairOf, encodePair, cut_append_cons _ (not_mem_encode pair.1).2, decode_encode,
    Option.getD_some, decode_encode]

/-- The text of a pair is one pair. -/
lemma pairs_encodePair (pair : String × String) : pairs (encodePair pair) = [pair] := by
  have none_ : ∀ c ∈ encodePair pair, (c == '&') = false := by
    intro c mem
    refine beq_eq_false_iff_ne.2 fun same => ?_
    rw [same, encodePair, List.mem_append, List.mem_cons] at mem
    rcases mem with first | sign | second
    · exact (not_mem_encode pair.1).1 first
    · exact absurd sign (by decide)
    · exact (not_mem_encode pair.2).1 second
  have filled : (encodePair pair).isEmpty = false := by simp [encodePair]
  rw [pairs, splitOn_of_none none_, List.filter_singleton, filled]
  exact congrArg (fun x => [x]) (pairOf_encodePair pair)

/-- Joined queries have the pairs of both. -/
lemma pairs_join (query query' : List Char) :
    pairs (query ++ '&' :: query') = pairs query ++ pairs query' := by
  rw [pairs, splitOn_append_cons (by decide), List.filter_append, List.map_append]
  rfl

/-- A pair that is added stands behind the others. -/
lemma pairs_append (query : List Char) (pair : String × String) :
    pairs (append query pair) = pairs query ++ [pair] := by
  rw [append]
  split
  · next empty =>
    rw [List.isEmpty_iff.1 empty, pairs_encodePair]
    rfl
  · rw [pairs_join, pairs_encodePair]

end Form

/-- The pairs that the query of a URL stands for. -/
def queryPairs (u : Url) : List (String × String) :=
  Form.pairs (u.query.getD [])

/-- Added pairs stand behind those that were there before. -/
theorem queryPairs_addPairs (u : Url) (pairs : List (String × String)) :
    (u.addPairs pairs).queryPairs = u.queryPairs ++ pairs := by
  induction pairs generalizing u with
  | nil => exact (List.append_nil _).symm
  | cons pair pairs ih =>
    have one : (u.addPair pair).queryPairs = u.queryPairs ++ [pair] :=
      Form.pairs_append (u.query.getD []) pair
    calc ((u.addPair pair).addPairs pairs).queryPairs
      _ = (u.addPair pair).queryPairs ++ pairs := ih _
      _ = u.queryPairs ++ pair :: pairs := by rw [one, List.append_assoc, List.singleton_append]

end Metering.Url
