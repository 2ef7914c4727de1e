import Metering.Options.Validation
import Metering.Proofs.Influx.Writer
import Metering.Proofs.Url.OtherSchemes

/-!
# Where lines are written

Validation reads the URI of a database as it is configured, and the writer reads the URI with a
service behind it. The main statement is `aim_of_validate`: it tells for the URIs that pass
validation when the lines go to the service at the configured server, and what becomes of the writer
when they do not.
-/

namespace Metering.Influx

open Url

/-! ## Services -/

variable {p : PushOptions} {u v v' : Url}

/-- The URL of a service is what its text is read as. -/
lemma serviceUrl_of_parse {service : String}
    (read : parse (serviceText p.uri.toList service.toList) = .ok v) :
    Writer.serviceUrl p service = .ok v := by
  unfold Writer.serviceUrl
  split
  · next eq => rw [Except.ok.inj (eq.symm.trans read)]
  · next eq => cases eq.symm.trans read

/-- A text that is refused is reported with its cause. -/
lemma serviceUrl_of_error {service : String} {cause : Invalid}
    (read : parse (serviceText p.uri.toList service.toList) = .error cause) :
    Writer.serviceUrl p service = .error (.invalidUri p.uri cause.message) := by
  unfold Writer.serviceUrl
  split
  · next eq => cases eq.symm.trans read
  · next eq => rw [Except.error.inj (eq.symm.trans read)]

/-- Parameters change the query of a URL only. -/
lemma addPairs_eq (u : Url) (pairs : List (String × String)) :
    ∃ query, u.addPairs pairs = { u with query } := by
  induction pairs generalizing u with
  | nil => exact ⟨u.query, rfl⟩
  | cons pair pairs ih => exact ih (u.addPair pair)

/-- The pairs of a write leave the server and the path as they are. -/
lemma exists_ofOptions
    (write : parse (serviceText p.uri.toList "write".toList) = .ok v)
    (query : parse (serviceText p.uri.toList "query".toList) = .ok v') (same : SameServer u v) :
    ∃ w, Writer.ofOptions p = .ok w ∧ SameServer u w.writeUrl ∧ w.writeUrl.path = v.path := by
  obtain ⟨pairs, added⟩ := addPairs_eq v (Writer.writePairs p)
  refine ⟨⟨v.addPairs (Writer.writePairs p), v', p.database, p.userName, p.password,
    p.compressed⟩, ?_, ?_, ?_⟩
  · rw [Writer.ofOptions, Writer.writeUrlOf, serviceUrl_of_parse write, serviceUrl_of_parse query]
    rfl
  · rw [added]
    exact ⟨same.scheme, same.host, same.port⟩
  · rw [added]

/-! ## Accepted URIs -/

/-- Whether the lines for some settings are written to the service at the server of a URL. -/
def Targets (p : PushOptions) (u : Url) : Prop :=
  ∃ w, Writer.ofOptions p = .ok w ∧ SameServer u w.writeUrl ∧ w.writeUrl.path.last = "write".toList

/-- Where both services lead to the URL, both targets are as they should be. -/
lemma targets_of_leads (write : Leads p.uri.toList "write".toList u)
    (query : Leads p.uri.toList "query".toList u) : Targets p u := by
  obtain ⟨v, read, same, last⟩ := write
  obtain ⟨v', query, -, -⟩ := query
  obtain ⟨w, built, server, path⟩ := exists_ofOptions read query same
  exact ⟨w, built, server, path ▸ last⟩

/-- What the writer makes of the URI of its settings, which reads as a URL. -/
structure Aim (p : PushOptions) (u : Url) : Prop where
  /-- A text that ends firmly leads to the service in every scheme. -/
  firm : '?' ∉ p.uri.toList → '#' ∉ p.uri.toList →
    EndsFirm (schemeKind (String.ofList u.scheme)) p.uri.toList → Targets p u
  /-- In the schemes of the web the service is also found behind a path, whatever ends that, and
  where at most tabs and line ends are behind the host or the port. -/
  web : '?' ∉ p.uri.toList → '#' ∉ p.uri.toList →
    schemeKind (String.ofList u.scheme) = .special →
    closeGaps (endBlanks p.uri.toList) = [] ∨ HasPath p.uri.toList → Targets p u
  /-- Any other blanks behind the host or the port are taken for a part of it. -/
  refused : '?' ∉ p.uri.toList → '#' ∉ p.uri.toList →
    schemeKind (String.ofList u.scheme) = .special →
    closeGaps (endBlanks p.uri.toList) ≠ [] → ¬ HasPath p.uri.toList →
    ∃ reason, Writer.ofOptions p = .error (.invalidUri p.uri reason)
  /-- Behind a query or a fragment the service does not count as a part of the path. -/
  hidden : '?' ∈ p.uri.toList ∨ '#' ∈ p.uri.toList →
    ∃ w, Writer.ofOptions p = .ok w ∧ SameServer u w.writeUrl ∧ w.writeUrl.path = u.path

/-- Settings that pass validation have a URL that can be read. -/
lemma exists_parse_of_validate {o : Options} (valid : o.validate = .ok ())
    (push : o.backend = .influxDb p) : ∃ u, parse p.uri.toList = .ok u := by
  cases read : parse p.uri.toList with
  | ok u => exact ⟨u, rfl⟩
  | error cause =>
    simp only [Options.validate, push, PushOptions.validate, read, bind, Except.bind, throw,
      throwThe, MonadExceptOf.throw] at valid
    repeat' split at valid
    all_goals cases valid

/-- For settings that pass validation: where the writer aims, and which texts go wrong. -/
theorem aim_of_validate {o : Options} (valid : o.validate = .ok ())
    (push : o.backend = .influxDb p) : ∃ u, parse p.uri.toList = .ok u ∧ Aim p u := by
  obtain ⟨u, ok⟩ := exists_parse_of_validate valid push
  have word_write := Writer.word_write
  have word_query := Writer.word_query
  have off (question : '?' ∉ p.uri.toList) (hash : '#' ∉ p.uri.toList) :
      goesOn p.uri.toList = false :=
    Bool.eq_false_iff.2 (mt goesOn_iff.1 (not_or.2 ⟨question, hash⟩))
  refine ⟨u, ok, ?_⟩
  constructor
  case firm =>
    intro question hash firm
    exact targets_of_leads (leads_of_endsFirm word_write ok (off question hash) firm)
      (leads_of_endsFirm word_query ok (off question hash) firm)
  case web =>
    intro question hash special fits
    exact targets_of_leads (leads_of_special word_write ok special (off question hash) fits)
      (leads_of_special word_query ok special (off question hash) fits)
  -- the write URL is read first, and its refusal is the answer
  case refused =>
    intro question hash special blank no_path
    obtain ⟨cause, error⟩ :=
      refused_of_special word_write ok special (off question hash) blank no_path
    refine ⟨cause.message, ?_⟩
    rw [Writer.ofOptions, Writer.writeUrlOf, serviceUrl_of_error error]
    rfl
  case hidden =>
    intro mem
    obtain ⟨v, write, same, path⟩ := parse_service_of_goesOn word_write ok (goesOn_iff.2 mem)
    obtain ⟨v', query, -, -⟩ := parse_service_of_goesOn word_query ok (goesOn_iff.2 mem)
    rw [← path]
    exact exists_ofOptions write query same

/-- Blanks in front of the scheme and behind a path do no harm. -/
theorem aim_of_blanks_around :
    let p : PushOptions := { uri := " HTTP://meter@h:80/db/ " }
    (show Options from { backend := .influxDb p }).validate = .ok () ∧
      ∃ u, parse p.uri.toList = .ok u ∧ Aim p u ∧ Targets p u := by
  intro p
  have valid : (show Options from { backend := .influxDb p }).validate = .ok () := by
    decide +kernel
  obtain ⟨u, ok, aim⟩ := aim_of_validate valid rfl
  have parsed : parse p.uri.toList = .ok ⟨"http".toList, "meter".toList, [],
      some (.domain "h".toList), none, .rooted ["db".toList, []], none, none⟩ := by
    decide +kernel
  obtain rfl := Except.ok.inj (ok.symm.trans parsed)
  have path : HasPath p.uri.toList := by decide +kernel
  exact ⟨valid, _, ok, aim, aim.web (by decide) (by decide) (by decide) (.inr path)⟩

/-- Two URIs that pass validation: no writer is built for the one, and the writer for the other
misses the service. -/
theorem not_targets_of_blank_and_query :
    let p : PushOptions := { uri := "http://h:8086 " }
    let q : PushOptions := { uri := "http://h:8086?x=1" }
    (show Options from { backend := .influxDb p }).validate = .ok () ∧
      Writer.ofOptions p = .error (.invalidUri "http://h:8086 " "invalid port number") ∧
    (show Options from { backend := .influxDb q }).validate = .ok () ∧
      (Writer.ofOptions q).map (fun w => w.writeUrl.path.last) = .ok [] := by
  decide +kernel

end Metering.Influx
