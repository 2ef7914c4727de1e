import Metering.Influx.Http
import Metering.Options
import Metering.Error

/-!
# Writing to the database

The writer posts batches of lines. Until the database has accepted a request to create itself, every
batch is preceded by one. Whatever comes of that request, the batch is posted once. Lines are handed
over in batches: one that is refused is dropped and the next one is tried, and there is nothing to
write without lines. What a pushing backend hands its batches to is a database, or a rehearsal that
keeps the batches and fails as it was told.
-/

namespace Metering.Influx

open Metering.Text

/-- Where and how lines are written. -/
structure Writer where
  writeUrl : Url
  queryUrl : Url
  database : String
  userName : Option String
  password : Option String
  compressed : Bool
  deriving DecidableEq, Repr

namespace Writer

/-- The text without the slashes at its end. -/
def trimSlashes (s : List Char) : List Char :=
  (s.reverse.dropWhile (· == '/')).reverse

/-- The parameters of a write. -/
def writePairs (o : PushOptions) : List (String × String) :=
  [("consistency", "one"), ("precision", "ms"), ("db", o.database)] ++
    (o.retentionPolicy.map fun policy => ("rp", policy)).toList

/-- The URL of a service of the database. -/
def serviceUrl (o : PushOptions) (service : String) : Except MeteringError Url :=
  match Url.parse (trimSlashes o.uri.toList ++ '/' :: service.toList) with
  | .ok u => .ok u
  | .error cause => .error (.invalidUri o.uri cause.message)

/-- The URL to which lines are written. -/
def writeUrlOf (o : PushOptions) : Except MeteringError Url :=
  (serviceUrl o "write").map fun u => u.addPairs (writePairs o)

/-- The writer for some settings. -/
def ofOptions (o : PushOptions) : Except MeteringError Writer := do
  let writeUrl ← writeUrlOf o
  let queryUrl ← serviceUrl o "query"
  return {
    writeUrl, queryUrl, database := o.database, userName := o.userName, password := o.password
    compressed := o.compressed }

def createStatement (database : String) : String :=
  "CREATE DATABASE \"" ++
    String.ofList (database.toList.flatMap fun c => if c = '"' then ['\\', '"'] else [c]) ++ "\""

/--
The authorization that a URL itself holds. A user name that is no text is of no use, and a
password that is none is left out.
-/
def urlAuthorization? (u : Url) : Option String := do
  let userName ← ofUtf8? (Url.percentDecode u.userName)
  let password := (ofUtf8? (Url.percentDecode u.password)).getD []
  guard (!(userName.isEmpty && password.isEmpty))
  return basicAuthorization userName password

/-- The authorization of the requests to a URL. -/
def authorization? (w : Writer) (u : Url) : Option String :=
  match urlAuthorization? u with
  | some header => some header
  | none => w.userName.map fun user =>
    basicAuthorization user.toList (w.password.getD "").toList

/-- The request that creates the database. -/
def createRequest (w : Writer) : Request where
  url := w.queryUrl.addPair ("q", createStatement w.database)
  authorization := w.authorization? w.queryUrl

/-- The request that writes a batch of lines. -/
def writeRequest (w : Writer) (lines : List String) : Request where
  url := w.writeUrl
  contentType := some "text/plain; charset=utf-8"
  contentEncoding := if w.compressed then some "gzip" else none
  authorization := w.authorization? w.writeUrl
  body := "\n".intercalate lines

/-- The number of bytes of an answer that an error keeps. -/
def bodyLimit : Nat := 512

/-- What an error keeps of the body of an answer. -/
def excerpt (body : List UInt8) : String :=
  String.ofList (clip bodyLimit (ofUtf8Lossy body))

/-- What the reply to a write means. -/
def outcome : Reply → Except MeteringError Unit
  | .answered status body =>
    if isSuccess status then .ok () else .error (.refused status (excerpt body))
  | .lost => .error (.transport "")

variable {σ : Type}

/--
Makes sure that the database exists, unless it is known to. The result tells whether it is known
to now.
-/
def prepareDatabase (exchange : Request → σ → Reply × σ) (w : Writer) (ready : Bool) (s : σ) :
    Bool × σ :=
  if ready then (true, s)
  else
    let (reply, s) := exchange w.createRequest s
    (reply.isSuccess, s)

/-- Writes a batch of lines, given whether the database is known to exist. -/
def write (exchange : Request → σ → Reply × σ) (w : Writer) (lines : List String) (ready : Bool)
    (s : σ) : Except MeteringError Unit × Bool × σ :=
  let (ready, s) := prepareDatabase exchange w ready s
  let (reply, s) := exchange (w.writeRequest lines) s
  (outcome reply, ready, s)

end Writer

/-! ## Batches -/

section Batches

variable {α σ : Type}

/-- The pieces of a list of a given size, the last one possibly smaller. -/
def chunks (size : Nat) (xs : List α) : List (List α) :=
  match xs with
  | [] => []
  | x :: rest => (x :: rest.take (size - 1)) :: chunks size (rest.drop (size - 1))
termination_by xs.length
decreasing_by simp only [List.length_drop, List.length_cons]; omega

/-- Hands batches to a writer with a state of its own, and counts the lines that it accepts. -/
def writeAll (write : List α → σ → Bool × σ) : List (List α) → σ → Nat × σ
  | [], s => (0, s)
  | batch :: rest, s =>
    let (accepted, s) := write batch s
    let (written, s) := writeAll write rest s
    ((if accepted then batch.length else 0) + written, s)

/--
Publishes lines in batches of at most the given size, but at least one line, and counts the lines
that the writer accepts.
-/
def publish (write : List α → σ → Bool × σ) (size : Nat) (lines : List α) (s : σ) : Nat × σ :=
  writeAll write (chunks (max 1 size) lines) s

end Batches

/-! ## Sinks -/

/-- What batches of lines are handed to. -/
inductive Sink where
  /-- A database behind a writer, and whether it is known to exist. -/
  | database (writer : Writer) (ready : Bool)
  /-- Keeps all batches, the last one first. The calls to come fail where the script says so. -/
  | rehearsal (failures : List Bool) (batches : List (List String))
  deriving DecidableEq, Repr

namespace Sink

/-- Hands over a batch. The result tells whether it was accepted. -/
def write (lines : List String) : Sink × Network → Bool × Sink × Network
  | (database writer ready, network) =>
    let (outcome, ready, network) := writer.write Network.exchange lines ready network
    (outcome.toBool, database writer ready, network)
  | (rehearsal failures batches, network) =>
    (!failures.headD false, rehearsal failures.tail (lines :: batches), network)

/-- The batches of a rehearsal since the last time, and the sink without them. -/
def takeBatches : Sink → List (List String) × Sink
  | rehearsal failures batches => (batches.reverse, rehearsal failures [])
  | sink => ([], sink)

end Sink

end Metering.Influx
