import Metering.Proofs.Influx.Target
import Metering.Proofs.Url.Form

/-!
# The parameters of a write

What the database is told with the URL of a write, apart from the lines: whatever the names of the
database and of the retention policy are, they are read off the query as they were set, and settings
that differ in one of them write to different URLs (`parameters_of_built`).
-/

namespace Metering

namespace Url

variable {s : List Char} {u : Url}

/-- Without a question mark there is no query. -/
lemma query_of_parse (ok : parse s = .ok u) (plain : '?' ∉ s) : u.query = none := by
  obtain ⟨query, fragment, asked, eq⟩ := exists_tail s
  obtain ⟨v, -, rfl⟩ := exists_of_map_eq_ok (eq.symm.trans ok)
  have not_mem : '?' ∉ (cut '#' (trimControls s)).1 := by
    rw [cut_fst]
    exact fun mem => plain ((mem_trimControls (by decide)).1 ((List.takeWhile_prefix _).subset mem))
  rw [← Option.not_isSome_iff_eq_none]
  change ¬ query.isSome = true
  rw [asked, isSome_cut]
  exact not_mem

/-- The text of a URL tells the query, if all else is known. -/
lemma query_eq_of_text {query query' : Option (List Char)}
    (same : ({ u with query } : Url).text = ({ u with query := query' } : Url).text) :
    query = query' := by
  have asked : (query.map ('?' :: ·)).getD [] = (query'.map ('?' :: ·)).getD [] := by
    simpa [text, target, authorityText, userText] using same
  cases query <;> cases query' <;> simp_all

end Url

namespace Influx

open Url

variable {o : PushOptions} {w : Writer}

/-- The query of the URL to which a writer writes holds the pairs of the write and no others. -/
lemma queryPairs_of_built (built : Writer.ofOptions o = .ok w) (plain : '?' ∉ o.uri.toList) :
    w.writeUrl.queryPairs = Writer.writePairs o := by
  obtain ⟨u, v, write, -, rfl⟩ := Writer.ofOptions_eq_ok built
  have read := Writer.serviceUrl_eq_ok write
  have no_query : u.query = none :=
    query_of_parse read (mt (mem_serviceText Writer.word_write (by decide)).1 plain)
  rw [queryPairs_addPairs, queryPairs, no_query]
  rfl

/-- Settings for one URI that write to the same URL have the same parameters. -/
lemma writePairs_eq_of_text {o' : PushOptions} {w' : Writer}
    (built : Writer.ofOptions o = .ok w) (built' : Writer.ofOptions o' = .ok w')
    (plain : '?' ∉ o.uri.toList) (uri : o'.uri = o.uri)
    (same : w'.writeUrl.text = w.writeUrl.text) : Writer.writePairs o' = Writer.writePairs o := by
  have plain' : '?' ∉ o'.uri.toList := by rwa [uri]
  rw [← queryPairs_of_built built' plain', ← queryPairs_of_built built plain]
  obtain ⟨u, v, write, -, rfl⟩ := Writer.ofOptions_eq_ok built
  obtain ⟨u', v', write', -, rfl⟩ := Writer.ofOptions_eq_ok built'
  have read := Writer.serviceUrl_eq_ok write
  have read' := Writer.serviceUrl_eq_ok write'
  rw [uri, read] at read'
  obtain rfl := Except.ok.inj read'
  obtain ⟨query, added⟩ := addPairs_eq u (Writer.writePairs o)
  obtain ⟨query', added'⟩ := addPairs_eq u (Writer.writePairs o')
  dsimp only at same ⊢
  rw [added, added'] at same ⊢
  rw [query_eq_of_text same]

/-- Behind a URI without a query, the pairs of a write are read off its URL as they were set: the
database, and the retention policy if and only if there is one. Two settings for one URI that differ
in the database or in the policy write to different URLs. -/
theorem parameters_of_built (built : Writer.ofOptions o = .ok w) (plain : '?' ∉ o.uri.toList) :
    w.writeUrl.queryPairs =
        [("consistency", "one"), ("precision", "ms"), ("db", o.database)] ++
          (match o.retentionPolicy with
          | some policy => [("rp", policy)]
          | none => []) ∧
      ∀ (o' : PushOptions) (w' : Writer), Writer.ofOptions o' = .ok w' → o'.uri = o.uri →
        o'.database ≠ o.database ∨ o'.retentionPolicy ≠ o.retentionPolicy →
        w'.writeUrl.text ≠ w.writeUrl.text := by
  constructor
  · rw [queryPairs_of_built built plain, Writer.writePairs]
    cases o.retentionPolicy <;> rfl
  · intro o' w' built' uri differ same
    have pairs := writePairs_eq_of_text built built' plain uri same
    simp only [Writer.writePairs, List.cons_append, List.nil_append, List.cons.injEq,
      Prod.mk.injEq, true_and] at pairs
    obtain ⟨database, policies⟩ := pairs
    have policy : o'.retentionPolicy = o.retentionPolicy := by
      cases set' : o'.retentionPolicy <;> cases set : o.retentionPolicy <;> simp_all
    exact differ.elim (· database) (· policy)

/-- Names that look like further parameters, and an empty policy that is set nevertheless. -/
theorem parameters_of_odd_names :
    let o : PushOptions :=
      { uri := "https://h:8086//", database := "a&db=b+c%20é #", retentionPolicy := some "" }
    let o' : PushOptions := { o with retentionPolicy := none }
    ∃ w w', Writer.ofOptions o = .ok w ∧ Writer.ofOptions o' = .ok w' ∧ '?' ∉ o.uri.toList ∧
      o'.uri = o.uri ∧ o'.retentionPolicy ≠ o.retentionPolicy ∧
      w.writeUrl.queryPairs =
        [("consistency", "one"), ("precision", "ms"), ("db", "a&db=b+c%20é #"), ("rp", "")] ∧
      w'.writeUrl.text ≠ w.writeUrl.text := by
  intro o o'
  have plain : '?' ∉ o.uri.toList := by decide +kernel
  have builds : (Writer.ofOptions o).isOk ∧ (Writer.ofOptions o').isOk := by decide +kernel
  cases built : Writer.ofOptions o with
  | error e => rw [built] at builds; cases builds.1
  | ok w =>
    cases built' : Writer.ofOptions o' with
    | error e => rw [built'] at builds; cases builds.2
    | ok w' =>
      obtain ⟨pairs, apart⟩ := parameters_of_built built plain
      have differ : o'.retentionPolicy ≠ o.retentionPolicy := by simp [o, o']
      exact ⟨w, w', rfl, rfl, plain, rfl, differ, pairs, apart o' w' built' rfl (.inr differ)⟩

end Influx

end Metering
