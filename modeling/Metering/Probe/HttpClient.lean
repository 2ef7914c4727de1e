import Metering.Probe.Endpoint

/-!
# HTTP clients

Requests and websockets at the client end of HTTP connections. A request waits for its response
from its beginning until the response ends or the request is reset; the time of a reset request is
not recorded.
-/

namespace Metering

/-- A client of HTTP connections. -/
structure HttpClient where
  endpoint : Endpoint
  deriving DecidableEq, Repr

/-- A request that waits for its response at a client. -/
structure ClientRequest where
  remoteEnd : String
  sample : Sample
  deriving DecidableEq, Repr

namespace HttpClient

/-- Requests that wait for their responses. -/
def requests (labels : LabelSet) : Template where
  kind := .gauge
  name := "vertx_http_client_requests"
  description := "Number of requests waiting for a response"
  keys := labels.keys []

/-- Requests by method. -/
def requestCount (labels : LabelSet) : Template where
  kind := .counter
  name := "vertx_http_client_request_count"
  description := "Number of requests sent"
  keys := labels.keys [Label.method]

/-- The time from the beginning of a request to the end of its response. -/
def responseTime (labels : LabelSet) : Template where
  kind := .timer
  name := "vertx_http_client_response_time"
  description := "Response time"
  keys := labels.keys []

/-- Responses by status code. -/
def responseCount (labels : LabelSet) : Template where
  kind := .counter
  name := "vertx_http_client_response_count"
  description := "Response count with codes"
  keys := labels.keys [Label.code]

/-- Open websockets. -/
def websockets (labels : LabelSet) : Template where
  kind := .gauge
  name := "vertx_http_client_ws_connections"
  description := "Number of websockets currently opened"
  keys := labels.keys []

def connecting (s : Scope) (policy : LabelPolicy) (localAddress : Option String) : HttpClient :=
  ⟨Endpoint.httpClient s policy localAddress⟩

section Events

variable {α : Type} [Amount α] (client : HttpClient)

/-- The change of a meter of this client. -/
def touch (template : LabelSet → Template) (remoteEnd : String) (extra : List String)
    (change : Change α) : Touch α :=
  client.endpoint.scope.touch (template client.endpoint.labels)
    (client.endpoint.values remoteEnd extra) change

/-- A request begins on a connection. -/
def requestBegun (remoteEnd method : String) : ClientRequest × List (Touch α) :=
  let e := client.endpoint
  let sample := Sample.of e.scope (responseTime e.labels) (e.values remoteEnd [])
  (⟨remoteEnd, sample⟩,
    [client.touch requests remoteEnd [] .up,
     client.touch requestCount remoteEnd [method] .countOne, sample.start])

def requestReset (request : ClientRequest) : List (Touch α) :=
  [client.touch requests request.remoteEnd [] .down]

/-- The response to a request ends with a status code after some time. -/
def responseEnded (request : ClientRequest) (status : UInt16) (nanos : Nat) : List (Touch α) :=
  let code := String.ofList (Number.natText status.toNat)
  [client.touch requests request.remoteEnd [] .down,
   client.touch responseCount request.remoteEnd [code] .countOne,
   request.sample.finish nanos]

/-- A websocket is opened on a connection. -/
def websocketOpened (remoteEnd : String) : List (Touch α) :=
  [client.touch websockets remoteEnd [] .up]

def websocketClosed (remoteEnd : String) : List (Touch α) :=
  [client.touch websockets remoteEnd [] .down]

end Events

end HttpClient

end Metering
