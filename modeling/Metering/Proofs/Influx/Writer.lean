import Mathlib.Data.List.Forall2
import Metering.Proofs.Influx.Statement
import Metering.Proofs.Url.Authority
import Metering.Proofs.Url.Form

/-!
# Writes and their requests

A write takes one turn with the database: possibly a request that creates the database, then the
request that posts the lines. `write_turn` gives the turn of a single write and `writeAll_turns`
those of any number of them. The main statement is `protocol_of_writes`: for each script of answers
it tells which requests are sent and what each write reports.
-/

namespace Metering.Influx

/-! ## Talks with a database -/

/-- What a peer is asked and answers in a row, and what it has become then. -/
inductive Peer.Talk : Peer → List (Request × Reply) → Peer → Prop where
  | nil (p : Peer) : Talk p [] p
  | cons {p q : Peer} {exchanges : List (Request × Reply)} (request : Request)
      (talk : Talk (p.exchange request).2 exchanges q) :
      Talk p ((request, (p.exchange request).1) :: exchanges) q

/-- What a peer with a script answers to one of its requests, counted from zero. -/
def Peer.answer (script : List Reply) (n : Nat) : Reply :=
  (script[n]?.map Reply.delivered).getD (.answered 204 [])

/-- A connection that is lost is no answer. -/
lemma Peer.answer_of_lost {script : List Reply} {n : Nat} (at_n : script[n]? = some .lost) :
    Peer.answer script n = .lost := by
  rw [Peer.answer, at_n]
  rfl

/-- A status from 200 to 999 arrives as it is sent. -/
lemma Peer.answer_of_final {script : List Reply} {n : Nat} {status : UInt16} {body : List UInt8}
    (at_n : script[n]? = some (.answered status body)) (least : 200 ≤ status)
    (greatest : status ≤ 999) : ∃ kept, Peer.answer script n = .answered status kept := by
  have inside : ¬ (status < 100 ∨ 999 < status) := by
    rw [UInt16.le_iff_toNat_le] at least greatest
    rw [UInt16.lt_iff_toNat_lt, UInt16.lt_iff_toNat_lt]
    simp at *
    omega
  have final : ¬ status < 200 := UInt16.not_lt.2 least
  rw [Peer.answer, at_n, Option.map_some, Option.getD_some, Reply.delivered, if_neg inside,
    if_neg final]
  split
  · exact ⟨[], rfl⟩
  · exact ⟨body, rfl⟩

namespace Peer.Talk

variable {p q r : Peer} {exchanges more : List (Request × Reply)}

/-- Talks are put together. -/
lemma append (talk : Talk p exchanges q) (next : Talk q more r) : Talk p (exchanges ++ more) r := by
  induction talk with
  | nil => exact next
  | cons request _ ih => exact .cons request (ih next)

/-- A peer remembers the requests of a talk. -/
lemma log (talk : Talk p exchanges q) : q.log = (exchanges.map Prod.fst).reverse ++ p.log := by
  induction talk with
  | nil => rfl
  | @cons p q exchanges request _ ih =>
    have logged : (p.exchange request).2.log = request :: p.log := by
      unfold Peer.exchange
      split <;> rfl
    rw [ih, logged]
    simp

/-- The answers of a talk are those of the script in its order. -/
lemma answer (talk : Talk p exchanges q) {n : Nat} {e : Request × Reply}
    (at_n : exchanges[n]? = some e) : e.2 = Peer.answer p.script n := by
  induction talk generalizing n with
  | nil => cases at_n
  | @cons p q exchanges request _ ih =>
    have next (n : Nat) :
        Peer.answer (p.exchange request).2.script n = Peer.answer p.script (n + 1) := by
      unfold Peer.exchange
      split
      · next done => simp [Peer.answer, done]
      · next eq => simp [Peer.answer, eq]
    cases n with
    | zero =>
      obtain rfl : (request, _) = e := Option.some.inj at_n
      unfold Peer.exchange
      split
      · next done => simp [Peer.answer, done]
      · next eq => simp [Peer.answer, eq]
    | succ n => rw [ih at_n, next]

end Peer.Talk

/-! ## Turns -/

/-- Whether a database accepts a request: it answers with a status from 200 to 299. -/
def Reply.accepts : Reply → Bool
  | .answered status _ => 200 ≤ status.toNat ∧ status.toNat < 300
  | .lost => false

/-- The writer takes those replies for successes that accept its request. -/
lemma Reply.isSuccess_eq (reply : Reply) : reply.isSuccess = reply.accepts := by
  cases reply with
  | lost => rfl
  | answered status body =>
    simp [Reply.isSuccess, Reply.accepts, Influx.isSuccess, UInt16.le_iff_toNat_le,
      UInt16.lt_iff_toNat_lt]

/-- The part of a talk that belongs to one write. -/
structure Turn where
  lines : List String
  /-- The answer to the request that creates the database, if there was one. -/
  created? : Option Reply
  /-- The answer to the request that posts the lines. -/
  written : Reply

namespace Turn

/-- The requests of a turn with their answers. -/
def exchanges (w : Writer) (t : Turn) : List (Request × Reply) :=
  (t.created?.map fun reply => (w.createRequest, reply)).toList ++
    [(w.writeRequest t.lines, t.written)]

/-- Whether the database has accepted in a turn that it is created. -/
def creates (t : Turn) : Bool :=
  t.created?.any Reply.accepts

/--
Turns that begin with a request to create the database as long as it is not known to exist.
-/
def Orderly : Bool → List Turn → Prop
  | _, [] => True
  | ready, t :: turns => t.created?.isSome = !ready ∧ Orderly (ready || t.creates) turns

/-- A turn begins with a request to create the database if none was accepted before. -/
lemma Orderly.created?_iff {ready : Bool} {before after : List Turn} {t : Turn}
    (orderly : Orderly ready (before ++ t :: after)) :
    t.created?.isSome ↔ ready = false ∧ ∀ u ∈ before, u.creates = false := by
  induction before generalizing ready with
  | nil => simp [orderly.1]
  | cons u before ih =>
    rw [ih orderly.2, Bool.or_eq_false_iff, List.forall_mem_cons, and_assoc]

/-- Once such a request is accepted, no turn has another. -/
lemma Orderly.created?_after {ready : Bool} {before after : List Turn} {t u : Turn}
    (orderly : Orderly ready (before ++ t :: after)) (accepted : t.creates) (mem : u ∈ after) :
    u.created? = none := by
  obtain ⟨between, rest, rfl⟩ := List.append_of_mem mem
  have split : before ++ t :: (between ++ u :: rest) = (before ++ t :: between) ++ u :: rest := by
    simp
  rw [split] at orderly
  refine Option.not_isSome_iff_eq_none.1 fun some_ => ?_
  have refused := (orderly.created?_iff.1 some_).2 t (by simp)
  exact absurd accepted (by simp [refused])

end Turn

/-! ## Runs -/

/-- What a write reports, given the answer to its lines. -/
inductive Tells : Reply → Except MeteringError Unit → Prop where
  | accepted (status : UInt16) (body : List UInt8)
      (success : 200 ≤ status.toNat ∧ status.toNat < 300) :
      Tells (.answered status body) (.ok ())
  | refused (status : UInt16) (body : List UInt8) (kept : String)
      (failure : ¬ (200 ≤ status.toNat ∧ status.toNat < 300)) :
      Tells (.answered status body) (.error (.refused status kept))
  | lost (cause : String) : Tells .lost (.error (.transport cause))

namespace Writer

/-- Writes batches in order. The reports are followed by what is known and who was asked. -/
def writeAll {σ : Type} (exchange : Request → σ → Reply × σ) (w : Writer) :
    List (List String) → Bool → σ → List (Except MeteringError Unit) × Bool × σ
  | [], ready, s => ([], ready, s)
  | lines :: batches, ready, s =>
    let (report, ready, s) := w.write exchange lines ready s
    let (reports, ready, s) := w.writeAll exchange batches ready s
    (report :: reports, ready, s)

/-- A write reports what it is answered. -/
lemma tells_outcome (reply : Reply) : Tells reply (outcome reply) := by
  cases reply with
  | lost => exact .lost _
  | answered status body =>
    have iff : isSuccess status ↔ 200 ≤ status.toNat ∧ status.toNat < 300 := by
      simp [isSuccess, UInt16.le_iff_toNat_le, UInt16.lt_iff_toNat_lt]
    by_cases success : isSuccess status
    · rw [outcome, if_pos success]
      exact .accepted status body (iff.1 success)
    · rw [outcome, if_neg success]
      exact .refused status body _ (mt iff.2 success)

/-- A write takes one turn, and knows more after it if the database was created. -/
theorem write_turn (w : Writer) (lines : List String) (ready : Bool) (p : Peer) :
    ∃ t : Turn, ∃ q, t.lines = lines ∧ t.created?.isSome = !ready ∧ p.Talk (t.exchanges w) q ∧
      w.write Peer.exchange lines ready p = (outcome t.written, ready || t.creates, q) := by
  cases ready with
  | true =>
    exact ⟨⟨lines, none, _⟩, _, rfl, rfl, .cons _ (.nil _), rfl⟩
  | false =>
    let asked := Peer.exchange w.createRequest p
    let posted := Peer.exchange (w.writeRequest lines) asked.2
    refine ⟨⟨lines, some asked.1, posted.1⟩, posted.2, rfl, rfl, .cons _ (.cons _ (.nil _)), ?_⟩
    have prepared : prepareDatabase Peer.exchange w false p = (asked.1.accepts, asked.2) := by
      rw [← Reply.isSuccess_eq]
      rfl
    rw [write, prepared]
    rfl

/-- By induction on the batches: each write takes its turn, one after the other. -/
theorem writeAll_turns (w : Writer) (batches : List (List String)) (ready : Bool) (p : Peer) :
    ∃ turns : List Turn, ∃ known q, turns.map Turn.lines = batches ∧ Turn.Orderly ready turns ∧
      p.Talk (turns.flatMap (Turn.exchanges w)) q ∧
      w.writeAll Peer.exchange batches ready p =
        (turns.map fun t => outcome t.written, known, q) := by
  induction batches generalizing ready p with
  | nil => exact ⟨[], ready, p, rfl, trivial, .nil p, rfl⟩
  | cons lines batches ih =>
    -- the first write takes its turn, and the others go on with what is known then
    obtain ⟨t, q, of_lines, created, talk, eq⟩ := w.write_turn lines ready p
    obtain ⟨turns, known, r, of_batches, orderly, more, rest⟩ := ih (ready || t.creates) q
    refine ⟨t :: turns, known, r, ?_, ⟨created, orderly⟩, ?_, ?_⟩
    · rw [List.map_cons, of_lines, of_batches]
    · rw [List.flatMap_cons]
      exact talk.append more
    · simp only [writeAll, eq, rest, List.map_cons]

/-! ## Writers from settings -/

/-- The name of the service that writes is a word. -/
lemma word_write : Url.Word "write".toList where
  ne_nil := by decide
  letters := by decide

/-- The name of the service that takes statements is a word. -/
lemma word_query : Url.Word "query".toList where
  ne_nil := by decide
  letters := by decide

variable {o : PushOptions} {w : Writer} {u : Url}

/-- A URL of a service is what its text is read as. -/
lemma serviceUrl_eq_ok {service : String} (ok : serviceUrl o service = .ok u) :
    Url.parse (Url.serviceText o.uri.toList service.toList) = .ok u := by
  unfold serviceUrl at ok
  split at ok
  · next v eq =>
    cases ok
    exact eq
  · cases ok

/-- What a writer has from its settings. -/
lemma ofOptions_eq_ok (ok : ofOptions o = .ok w) :
    ∃ u v, serviceUrl o "write" = .ok u ∧ serviceUrl o "query" = .ok v ∧
      w = ⟨u.addPairs (writePairs o), v, o.database, o.userName, o.password, o.compressed⟩ := by
  unfold ofOptions writeUrlOf at ok
  cases write : serviceUrl o "write" with
  | error => simp [write, Except.map, bind, Except.bind] at ok
  | ok u =>
    cases query : serviceUrl o "query" with
    | error => simp [write, query, Except.map, bind, Except.bind] at ok
    | ok v =>
      simp only [write, query, Except.map, bind, Except.bind, pure, Except.pure] at ok
      cases ok
      exact ⟨u, v, rfl, rfl, rfl⟩

/-- Parameters leave the user of a URL. -/
lemma addPairs_user (u : Url) (pairs : List (String × String)) :
    (u.addPairs pairs).userName = u.userName ∧ (u.addPairs pairs).password = u.password := by
  induction pairs generalizing u with
  | nil => exact ⟨rfl, rfl⟩
  | cons pair pairs ih => exact ih (u.addPair pair)

/-- A URL without a user authorizes nobody. -/
lemma urlAuthorization?_eq_none (nobody : u.userName = [] ∧ u.password = []) :
    urlAuthorization? u = none := by
  simp [urlAuthorization?, nobody, Url.percentDecode, Text.ofUtf8?, Text.readUtf8, guard]

/-- To a URL without a user a request is authorized if the settings name one. -/
lemma authorization?_isSome (nobody : u.userName = [] ∧ u.password = []) :
    (w.authorization? u).isSome ↔ w.userName.isSome := by
  rw [authorization?, urlAuthorization?_eq_none nobody, Option.isSome_map]

/-- No user in the URL: then a request is authorized by the settings alone. -/
lemma authorized_iff (ok : ofOptions o = .ok w) (parsed : Url.parse o.uri.toList = .ok u)
    (http : u.scheme = "http".toList) (nobody : u.userName = [] ∧ u.password = []) {t : Turn}
    {e : Request × Reply} (mem : e ∈ t.exchanges w) :
    e.1.authorization.isSome ↔ o.userName.isSome := by
  obtain ⟨write, query, write_ok, query_ok, rfl⟩ := ofOptions_eq_ok ok
  have special : Url.schemeKind (String.ofList u.scheme) = .special := by
    rw [http]
    decide
  have write_user := Url.user_service word_write parsed special (serviceUrl_eq_ok write_ok)
  have query_user := Url.user_service word_query parsed special (serviceUrl_eq_ok query_ok)
  rw [nobody.1, nobody.2] at write_user query_user
  obtain mem | mem := List.mem_append.1 mem
  · obtain ⟨reply, -, rfl⟩ := Option.map_eq_some_iff.1 (Option.mem_toList.1 mem)
    exact authorization?_isSome query_user
  · obtain rfl := List.mem_singleton.1 mem
    obtain ⟨name, password⟩ := addPairs_user write (writePairs o)
    exact authorization?_isSome ⟨name.trans write_user.1, password.trans write_user.2⟩

/-! ## The protocol -/

/-- What happens when batches are written to a database that answers by a script. -/
structure Conducted (o : PushOptions) (w : Writer) (batches : List (List String))
    (script : List Reply) (reports : List (Except MeteringError Unit)) (log : List Request)
    (turns : List Turn) : Prop where
  /-- Each write has one turn, in which its lines are posted once. -/
  lines : turns.map Turn.lines = batches
  /-- There are no requests but those of the turns. -/
  requests : log = (turns.flatMap (Turn.exchanges w)).map Prod.fst
  /-- The answers are those of the script in its order. -/
  answers (n : Nat) (e : Request × Reply) :
    (turns.flatMap (Turn.exchanges w))[n]? = some e → e.2 = Peer.answer script n
  hung_up (n : Nat) : script[n]? = some .lost → Peer.answer script n = .lost
  final (n : Nat) (status : UInt16) (body : List UInt8) :
    script[n]? = some (.answered status body) → 200 ≤ status → status ≤ 999 →
      ∃ kept, Peer.answer script n = .answered status kept
  reports : List.Forall₂ (fun t report => Tells t.written report) turns reports
  /-- The database is created until it has accepted that. -/
  created (before : List Turn) (t : Turn) (after : List Turn) :
    turns = before ++ t :: after → (t.created?.isSome ↔ ∀ u ∈ before, u.creates = false)
  created_once (before : List Turn) (t : Turn) (after : List Turn) :
    turns = before ++ t :: after → t.creates → ∀ u ∈ after, u.created? = none
  authorized (request : Request) :
    request ∈ log → (request.authorization.isSome ↔ o.userName.isSome)
  posts (lines : List String) :
    (w.writeRequest lines).url = w.writeUrl ∧
      (w.writeRequest lines).body = "\n".intercalate lines ∧
      (w.writeRequest lines).contentEncoding = if o.compressed then some "gzip" else none
  /-- The database is created by a statement that has its name between quotes. The statement is what
  the query of the URL says behind all that it said before. -/
  creation : ∃ statement : String,
    statement.toList = "CREATE DATABASE \"".toList ++ quoted o.database.toList ∧
      w.createRequest.url = w.queryUrl.addPair ("q", statement) ∧
      w.createRequest.url.queryPairs = w.queryUrl.queryPairs ++ [("q", statement)] ∧
      w.createRequest.body = "" ∧ w.createRequest.contentEncoding = none

/-- Writes to a database that answers by any script: which requests are sent, what is in them, and
what each write reports. -/
theorem protocol_of_writes (ok : ofOptions o = .ok w) (parsed : Url.parse o.uri.toList = .ok u)
    (http : u.scheme = "http".toList) (nobody : u.userName = [] ∧ u.password = [])
    (batches : List (List String)) (script : List Reply) :
    let run := w.writeAll Peer.exchange batches false ⟨script, []⟩
    ∃ turns, Conducted o w batches script run.1 run.2.2.log.reverse turns := by
  obtain ⟨turns, known, q, lines, orderly, talk, eq⟩ := w.writeAll_turns batches false ⟨script, []⟩
  have log : q.log.reverse = (turns.flatMap (Turn.exchanges w)).map Prod.fst := by
    rw [talk.log, List.append_nil, List.reverse_reverse]
  rw [eq]
  refine ⟨turns, ?_⟩
  constructor
  case lines => exact lines
  case requests => exact log
  case answers => exact fun n e at_n => talk.answer at_n
  case hung_up => exact fun n => Peer.answer_of_lost
  case final => exact fun n status body => Peer.answer_of_final
  case reports =>
    rw [List.forall₂_map_right_iff]
    exact List.forall₂_same.2 fun t _ => tells_outcome t.written
  case created =>
    rintro before t after rfl
    simpa using orderly.created?_iff
  case created_once =>
    rintro before t after rfl accepted u mem
    exact orderly.created?_after accepted mem
  case authorized =>
    intro request mem
    rw [log] at mem
    obtain ⟨e, of_turns, rfl⟩ := List.mem_map.1 mem
    obtain ⟨t, -, of_turn⟩ := List.mem_flatMap.1 of_turns
    exact authorized_iff ok parsed http nobody of_turn
  case posts =>
    obtain ⟨_, _, _, _, rfl⟩ := ofOptions_eq_ok ok
    exact fun lines => ⟨rfl, rfl, rfl⟩
  case creation =>
    obtain ⟨_, _, _, _, rfl⟩ := ofOptions_eq_ok ok
    exact ⟨_, toList_createStatement o.database, rfl, Url.queryPairs_addPairs _ [_], rfl, rfl⟩

/-- The database is created at the second write, whose lines are lost. -/
theorem protocol_of_three_writes :
    let o : PushOptions := { uri := "http://10.0.0.1:8086/", userName := some "meter" }
    let batches := [["a v=1"], [], ["b v=2", "c v=3"]]
    let script := [.lost, .answered 503 [], .answered 200 [], .lost]
    ∃ w, ofOptions o = .ok w ∧
      let run := w.writeAll Peer.exchange batches false ⟨script, []⟩
      ∃ turns, Conducted o w batches script run.1 run.2.2.log.reverse turns := by
  intro o batches script
  have parsed : Url.parse o.uri.toList = .ok
      ⟨"http".toList, [], [], some (.address4 0x0A000001), some 8086, .rooted [[]], none, none⟩ := by
    decide +kernel
  have built : (ofOptions o).isOk := by decide +kernel
  cases ok : ofOptions o with
  | error => simp [ok, Except.isOk, Except.toBool] at built
  | ok w => exact ⟨w, rfl, protocol_of_writes ok parsed rfl ⟨rfl, rfl⟩ batches script⟩

end Writer

end Metering.Influx
