import Metering.Exposition.Address
import Metering.Exposition.Server
import Metering.Exposition.Text
import Metering.Influx.LineProtocol
import Metering.Influx.Writer
import Metering.Options.Validation

/-!
# Backends

A backend owns the registry in which meters are registered and what exports them: a server that is
scraped, or a loop that pushes to a sink. All backends of a site share its hub and its network.
Closing a scraped backend forgets its meters; closing a pushing one makes its loop push once more
and end.
-/

namespace Metering

/-- A backend of a site. -/
structure BackendRef where
  index : Nat
  deriving DecidableEq, Repr

/-- A server that answers scrapes. -/
structure ScrapeServer where
  address : ListenOptions
  endpoint : String
  running : Bool
  deriving DecidableEq, Repr

inductive Backend where
  /-- Waits to be scraped, possibly by a server of its own. -/
  | scraped (registry : RegistryRef) (server : Option ScrapeServer)
  /-- Pushes batches to a sink, also by itself while its loop is running. -/
  | pushing (registry : RegistryRef) (batchSize : Nat) (looping : Bool) (sink : Influx.Sink)
  /-- Discards all meters. -/
  | disabled (registry : RegistryRef)
  deriving DecidableEq, Repr

namespace Backend

def registry : Backend → RegistryRef
  | scraped r _ => r
  | pushing r _ _ _ => r
  | disabled r => r

def kind : Backend → BackendKind
  | scraped _ _ => .prometheus
  | pushing _ _ _ _ => .influxDb
  | disabled _ => .disabled

/-- The server of a backend, if it is running. -/
def server? : Backend → Option ScrapeServer
  | scraped _ (some server) => if server.running then some server else none
  | _ => none

end Backend

/-- What surrounds a site while a backend is built. -/
structure Surroundings where
  /-- Whether background work can be run. -/
  executor : Bool
  /-- Whether a server can listen on an address: the address is one of this machine, and nobody
  listens there already. -/
  binds : ListenOptions → Bool
  /-- What the clock shows when the loop that is built begins, in nanoseconds. -/
  clock : Nat

/-- A machine that has no addresses but those by which every machine calls itself, where some ports
are in use. Port zero stands for any free one. -/
def Surroundings.alone (executor : Bool) (busyPorts : List UInt16) (clock : Nat) : Surroundings where
  executor
  binds o := (Exposition.Address.ofHost? o.host).any Exposition.Address.isHere &&
    (o.port == 0 || !busyPorts.contains o.port)
  clock

/-- Everything that backends share. -/
structure Site (α : Type) where
  hub : Hub α
  backends : Array Backend
  network : Influx.Network

namespace Site

variable {α : Type}

/-- The site without anything. -/
def empty : Site α := ⟨.empty, #[], .empty⟩

def backend? (s : Site α) (b : BackendRef) : Option Backend :=
  s.backends[b.index]?

/-- The site with a new backend. -/
def addBackend (s : Site α) (b : Backend) : BackendRef × Site α :=
  (⟨s.backends.size⟩, { s with backends := s.backends.push b })

/-- The site with a backend replaced. -/
def setBackend (s : Site α) (b : BackendRef) (backend : Backend) : Site α :=
  { s with backends := s.backends.setIfInBounds b.index backend }

/-! ## Building -/

/-- The server for some settings, if it can be started. -/
def startServer (around : Surroundings) (endpoint : String) (o : ListenOptions) :
    Except MeteringError ScrapeServer := do
  if endpoint.toList.head? ≠ some '/' then
    throw (.invalidUri endpoint "endpoint must start with '/'")
  if !around.executor then throw (.noExecutor BackendKind.prometheus.name)
  if !around.binds o then
    throw (.bind (o.host ++ ":" ++ String.ofList (Number.natText o.port.toNat)) "")
  if !Exposition.isRoute endpoint.toList then throw (.panic "")
  return ⟨o, endpoint, true⟩

/-- A new scraped backend. -/
def buildScraped (s : Site α) (around : Surroundings) (o : ScrapeOptions) :
    Except MeteringError (BackendRef × Site α) := do
  let server ← o.server.mapM (startServer around o.endpoint)
  let (registry, hub) := s.hub.addRegistry (.store [])
  return { s with hub }.addBackend (.scraped registry server)

/-- The nanoseconds from the beginning of a loop to its first push: the step in seconds, but at least
one millisecond. -/
def pause (step : UInt64) : Nat :=
  max (step.toNat * 1000000000) 1000000

/--
The clock ends with its `2 ^ 63`th second. A loop whose first push lies beyond has ended before it
began. The timer for the push is set to the end of a millisecond, which must not lie beyond either.
-/
def canLoop (around : Surroundings) (step : UInt64) : Bool :=
  around.clock + pause step + 999999 < 0x8000000000000000 * 1000000000

/-- A new pushing backend with a given sink. -/
def buildPushing (s : Site α) (around : Surroundings) (o : PushOptions) (sink : Influx.Sink) :
    Except MeteringError (BackendRef × Site α) := do
  if !around.executor then throw (.noExecutor BackendKind.influxDb.name)
  let (registry, hub) := s.hub.addRegistry (.store [])
  return { s with hub }.addBackend
    (.pushing registry (max 1 o.batchSize.toNat) (canLoop around o.step) sink)

/-- A new backend. -/
def build (s : Site α) (around : Surroundings) : BackendOptions →
    Except MeteringError (BackendRef × Site α)
  | .prometheus o => s.buildScraped around o
  | .influxDb o => do
    let writer ← Influx.Writer.ofOptions o
    s.buildPushing around o (.database writer false)
  | .disabled =>
    let (registry, hub) := s.hub.addRegistry .discarding
    .ok ({ s with hub }.addBackend (.disabled registry))

/-- A backend with what it holds, for diagnostics. -/
def describe (s : Site α) (b : Backend) : String :=
  let meters := String.ofList (Number.natText (s.hub.size b.registry))
  match b with
  | .scraped _ server =>
    let address :=
      match server with
      | some server =>
        "Some(" ++ server.address.host ++ ":" ++
          String.ofList (Number.natText server.address.port.toNat) ++ ")"
      | none => "None"
    "PrometheusBackend \x7b meters: " ++ meters ++ ", local_addr: " ++ address ++ " \x7d"
  | .pushing _ size _ _ =>
    "InfluxDbBackend \x7b meters: " ++ meters ++ ", batch_size: " ++
      String.ofList (Number.natText size) ++ " \x7d"
  | .disabled _ => "Noop"

/-! ## Exporting -/

variable [Amount α]

/-- The lines for the meters of a registry. -/
def lines (s : Site α) (r : RegistryRef) (timestamp : Int) : List String :=
  Influx.lines timestamp (s.hub.meters r)

/-- Pushes the present meters of a pushing backend once, and counts the lines that are accepted. -/
def publish (s : Site α) (b : BackendRef) (timestamp : Int) : Nat × Site α :=
  match s.backend? b with
  | some (.pushing registry size looping sink) =>
    let (written, sink, network) :=
      Influx.publish Influx.Sink.write size (s.lines registry timestamp) (sink, s.network)
    (written, { s with network }.setBackend b (.pushing registry size looping sink))
  | _ => (0, s)

/-- The exposition of a scraped backend. -/
def scrape (s : Site α) (b : BackendRef) : Option (Except MeteringError String) :=
  match s.backend? b with
  | some (.scraped registry _) => some (Exposition.scrape (s.hub.meters registry))
  | _ => none

/-- What comes of a request to the server of a backend. -/
inductive Visit where
  | noServer
  /-- The server is not called by an address of this machine alone. -/
  | refused
  | answered (answer : Exposition.Answer)
  deriving DecidableEq, Repr

/-- Sends a request to the server of a backend, if it has a running one. -/
def request (s : Site α) (b : BackendRef) (method target : String) : Visit :=
  match s.backend? b with
  | none => .noServer
  | some backend =>
    match backend.server? with
    | none => .noServer
    | some server =>
      if (Exposition.Address.ofHost? server.address.host).any (·.isLoopback) then
        .answered (Exposition.answer server.endpoint
          (Exposition.scrape (s.hub.meters backend.registry)) method target)
      else .refused

/-! ## Closing -/

/-- The loop of a pushing backend, if it is running, pushes once more and ends. -/
def endLoop (s : Site α) (b : BackendRef) (timestamp : Int) : Site α :=
  match s.backend? b with
  | some (.pushing _ _ true _) =>
    let (_, s) := s.publish b timestamp
    match s.backend? b with
    | some (.pushing registry size _ sink) => s.setBackend b (.pushing registry size false sink)
    | _ => s
  | _ => s

/-- Closes a backend: its background work ends, and a scraped backend forgets its meters. -/
def close (s : Site α) (b : BackendRef) (timestamp : Int) : Site α :=
  match s.backend? b with
  | some (.scraped registry server) =>
    let stopped := server.map fun server => { server with running := false }
    { s with hub := s.hub.clear registry }.setBackend b (.scraped registry stopped)
  | some (.pushing _ _ _ _) => s.endLoop b timestamp
  | _ => s

end Site

end Metering
