import Metering.Probe.Endpoint

/-!
# HTTP servers

Requests and websockets at the server end of HTTP connections. A request is in progress from its
beginning until its response ends or it is reset. A pushed response is in progress like a request,
but nobody waits for it, so it is not timed.
-/

namespace Metering

/-- A server of HTTP connections. -/
structure HttpServer where
  endpoint : Endpoint
  deriving DecidableEq, Repr

/-- A request in progress at a server. -/
structure ServerRequest where
  remoteEnd : String
  method : String
  /-- The timing of the response, unless it was pushed. -/
  sample : Option Sample
  deriving DecidableEq, Repr

namespace HttpServer

/-- Requests in progress. -/
def requests (labels : LabelSet) : Template where
  kind := .gauge
  name := "vertx_http_server_requests"
  description := "Number of requests being processed"
  keys := labels.keys []

/-- Finished requests by method and status code. -/
def requestCount (labels : LabelSet) : Template where
  kind := .counter
  name := "vertx_http_server_request_count"
  description := "Number of processed requests"
  keys := labels.keys [Label.method, Label.code]

def requestResetCount (labels : LabelSet) : Template where
  kind := .counter
  name := "vertx_http_server_request_reset_count"
  description := "Number of requests reset"
  keys := labels.keys []

/-- The time from the beginning of a request to the end of its response. -/
def responseTime (labels : LabelSet) : Template where
  kind := .timer
  name := "vertx_http_server_response_time"
  description := "Request processing time"
  keys := labels.keys []

/-- Open websockets. -/
def websockets (labels : LabelSet) : Template where
  kind := .gauge
  name := "vertx_http_server_ws_connections"
  description := "Number of websockets currently opened"
  keys := labels.keys []

/-- The server that listens on an address. -/
def listening (s : Scope) (policy : LabelPolicy) (host : Option String) (port : UInt16) :
    HttpServer :=
  ⟨Endpoint.httpServer s policy host port⟩

section Events

variable {α : Type} [Amount α] (server : HttpServer)

/-- The change of a meter of this server. -/
def touch (template : LabelSet → Template) (remoteEnd : String) (extra : List String)
    (change : Change α) : Touch α :=
  server.endpoint.scope.touch (template server.endpoint.labels)
    (server.endpoint.values remoteEnd extra) change

/-- A request begins on a connection. -/
def requestBegun (remoteEnd method : String) : ServerRequest × List (Touch α) :=
  let e := server.endpoint
  let sample := Sample.of e.scope (responseTime e.labels) (e.values remoteEnd [])
  (⟨remoteEnd, method, some sample⟩, [server.touch requests remoteEnd [] .up, sample.start])

/-- A response is pushed on a connection. -/
def responsePushed (remoteEnd method : String) : ServerRequest × List (Touch α) :=
  (⟨remoteEnd, method, none⟩, [server.touch requests remoteEnd [] .up])

def requestReset (request : ServerRequest) : List (Touch α) :=
  [server.touch requestResetCount request.remoteEnd [] .countOne,
   server.touch requests request.remoteEnd [] .down]

/-- The response to a request ends with a status code after some time. -/
def responseEnded (request : ServerRequest) (status : UInt16) (nanos : Nat) : List (Touch α) :=
  let code := String.ofList (Number.natText status.toNat)
  (request.sample.map fun s => s.finish nanos).toList ++
    [server.touch requestCount request.remoteEnd [request.method, code] .countOne,
     server.touch requests request.remoteEnd [] .down]

/-- A websocket is opened on a connection. -/
def websocketOpened (remoteEnd : String) : List (Touch α) :=
  [server.touch websockets remoteEnd [] .up]

def websocketClosed (remoteEnd : String) : List (Touch α) :=
  [server.touch websockets remoteEnd [] .down]

end Events

end HttpServer

end Metering
