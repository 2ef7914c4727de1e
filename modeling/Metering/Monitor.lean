import Metering.Directory
import Metering.Probe.HttpServer
import Metering.Probe.HttpClient
import Metering.Probe.Datagram
import Metering.Probe.EventBus
import Metering.Probe.Deployment
import Metering.Probe.Pool

/-!
# Monitors

A monitor ties one application to a backend of the directory. It hands out what measures each
category that is not switched off, all over the registry of that backend.
-/

namespace Metering

/-- What measures one application. -/
structure Monitor where
  /-- The name of the backend in the directory. -/
  registryName : String
  backend : BackendRef
  scope : Scope
  labels : LabelPolicy
  disabledCategories : CategorySet
  deriving DecidableEq

namespace Monitor

variable {α : Type}

/-- Sets up the configured backend, and a monitor over it. -/
def setup (d : Directory) (s : Site α) (around : Surroundings) (o : Options) :
    Except MeteringError (Monitor × Directory × Site α) := do
  let (backend, d, s) ← d.setup s around o.registryName o.effectiveBackend
  let registry := ((s.backend? backend).map Backend.registry).getD ⟨0⟩
  let (scope, hub) := s.hub.addScope registry
  return (⟨o.registryName, backend, scope, o.labels, o.disabledCategories⟩, d, { s with hub })

/-- Stops what the directory holds under the monitor's name. -/
def close [Amount α] (m : Monitor) (d : Directory) (s : Site α) (timestamp : Int) :
    Directory × Site α :=
  d.stop s m.registryName timestamp

/-- Whether a category is measured. -/
def isEnabled (m : Monitor) (c : Category) : Bool :=
  !m.disabledCategories.contains c

/-- The categories that are measured, in their listing order. -/
def enabledCategories (m : Monitor) : List Category :=
  Category.all.filter m.isEnabled

/-- What a category hands out, unless it is switched off. -/
def handOut {β : Type} (m : Monitor) (c : Category) (probe : β) : Option β :=
  if m.isEnabled c then some probe else none

/-- A client of plain connections. -/
def netClient (m : Monitor) (localAddress : Option String) : Option Endpoint :=
  m.handOut .netClient (Endpoint.netClient m.scope m.labels localAddress)

/-- A server of plain connections. -/
def netServer (m : Monitor) (host : Option String) (port : UInt16) : Option Endpoint :=
  m.handOut .netServer (Endpoint.netServer m.scope m.labels host port)

/-- A client of HTTP connections. -/
def httpClient (m : Monitor) (localAddress : Option String) : Option HttpClient :=
  m.handOut .httpClient (HttpClient.connecting m.scope m.labels localAddress)

/-- A server of HTTP connections. -/
def httpServer (m : Monitor) (host : Option String) (port : UInt16) : Option HttpServer :=
  m.handOut .httpServer (HttpServer.listening m.scope m.labels host port)

def datagramSocket (m : Monitor) : Option DatagramSocket :=
  m.handOut .datagramSocket (DatagramSocket.new m.scope)

def eventBus (m : Monitor) : Option EventBus :=
  m.handOut .eventBus ⟨m.scope⟩

/-- A named pool. -/
def pool (m : Monitor) (type name : String) (size : UInt32) : Option Pool :=
  m.handOut .namedPools ⟨m.scope, type, name, size⟩

/-- The deployed instances. -/
def deployments (m : Monitor) : Option Deployments :=
  m.handOut .verticles ⟨m.scope⟩

end Monitor

end Metering
