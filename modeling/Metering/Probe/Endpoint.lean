import Metering.Label.Policy
import Metering.Family

/-!
# Endpoints

One end of connections: a client or server of plain or HTTP connections, known by its local label.
It measures how many connections are open, what goes over them, and errors. A connection is known
by the label of its remote end.
-/

namespace Metering

/-- What is spoken over connections. -/
inductive Protocol where
  | net
  | http
  deriving DecidableEq, Repr

/-- The beginning of the names of a protocol's meters. -/
def Protocol.stem : Protocol → String
  | .net => "vertx_net"
  | .http => "vertx_http"

/-- The name of a direction in meters. -/
def Direction.name : Direction → String
  | .client => "client"
  | .server => "server"

/-- One end of connections. -/
structure Endpoint where
  scope : Scope
  protocol : Protocol
  direction : Direction
  labels : LabelSet
  /-- The label of this end. -/
  localEnd : String
  deriving DecidableEq, Repr

namespace Endpoint

def meterName (e : Endpoint) (what : String) : String :=
  e.protocol.stem ++ "_" ++ e.direction.name ++ "_" ++ what

/-- Open connections. -/
def connections (e : Endpoint) : Template where
  kind := .gauge
  name := e.meterName "connections"
  description :=
    match e.direction with
    | .client => "Number of connections to the remote host currently opened"
    | .server => "Number of opened connections to the server"
  keys := e.labels.keys []

def bytesReceived (e : Endpoint) : Template where
  kind := .summary
  name := e.meterName "bytes_received"
  description :=
    match e.direction with
    | .client => "Number of bytes received from the remote host"
    | .server => "Number of bytes received by the server"
  keys := e.labels.keys []

def bytesSent (e : Endpoint) : Template where
  kind := .summary
  name := e.meterName "bytes_sent"
  description :=
    match e.direction with
    | .client => "Number of bytes sent to the remote host"
    | .server => "Number of bytes sent by the server"
  keys := e.labels.keys []

/-- Errors by class. -/
def errors (e : Endpoint) : Template where
  kind := .counter
  name := e.meterName "errors"
  description := "Number of errors"
  keys := e.labels.keys [Label.errorClass]

/-- The label values for a connection. -/
def values (e : Endpoint) (remoteEnd : String) (extra : List String) : List String :=
  e.labels.values e.localEnd remoteEnd extra

section Events

variable {α : Type} [Amount α]

/-- A connection to a remote end is opened. -/
def connected (e : Endpoint) (remoteEnd : String) : List (Touch α) :=
  [e.scope.touch e.connections (e.values remoteEnd []) .up]

/-- A connection is closed. -/
def disconnected (e : Endpoint) (remoteEnd : String) : List (Touch α) :=
  [e.scope.touch e.connections (e.values remoteEnd []) .down]

/-- Bytes are received over a connection. -/
def bytesRead (e : Endpoint) (remoteEnd : String) (bytes : UInt64) : List (Touch α) :=
  [e.scope.touch e.bytesReceived (e.values remoteEnd []) (.observe (Amount.ofCount bytes))]

/-- Bytes are sent over a connection. -/
def bytesWritten (e : Endpoint) (remoteEnd : String) (bytes : UInt64) : List (Touch α) :=
  [e.scope.touch e.bytesSent (e.values remoteEnd []) (.observe (Amount.ofCount bytes))]

/-- An error of some class occurs on a connection. -/
def failed (e : Endpoint) (remoteEnd errorClass : String) : List (Touch α) :=
  [e.scope.touch e.errors (e.values remoteEnd [errorClass]) .countOne]

end Events

end Endpoint

/-- A client of plain connections. An unknown local address has a label of its own. -/
def Endpoint.netClient (s : Scope) (policy : LabelPolicy) (localAddress : Option String) :
    Endpoint :=
  ⟨s, .net, .client, policy.labelSet .client, localAddress.getD Label.unknown⟩

/-- A server of plain connections that listens on an address. -/
def Endpoint.netServer (s : Scope) (policy : LabelPolicy) (host : Option String) (port : UInt16) :
    Endpoint :=
  ⟨s, .net, .server, policy.labelSet .server, Label.ofAddress host port⟩

/-- The end of HTTP connections at a client. -/
def Endpoint.httpClient (s : Scope) (policy : LabelPolicy) (localAddress : Option String) :
    Endpoint :=
  ⟨s, .http, .client, policy.labelSet .client, localAddress.getD Label.unknown⟩

/-- The end of HTTP connections at a server that listens on an address. -/
def Endpoint.httpServer (s : Scope) (policy : LabelPolicy) (host : Option String) (port : UInt16) :
    Endpoint :=
  ⟨s, .http, .server, policy.labelSet .server, Label.ofAddress host port⟩

end Metering
