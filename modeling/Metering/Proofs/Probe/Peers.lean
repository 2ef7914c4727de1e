import Metering.Proofs.Hub.Alike
import Metering.Proofs.Hub.Reading
import Metering.Proofs.Probe.Event

/-!
# Peers

Callbacks at servers and clients of plain and HTTP connections, in any order: each may use what an
earlier one has handed out, such as the socket of a connection or a request in progress (`Step`).
Where the remote end is no label, nothing tells who the peers are. Two runs that differ in nothing
but the addresses of the peers that connect list the same meters, in the same states up to durations
(`peers_unseen`).
-/

namespace Metering

variable {α : Type}

/-- Where the remote end is no label, values do not tell it. -/
lemma LabelSet.values_eq_of_not_hasRemote {labels : LabelSet} (off : labels.hasRemote = false)
    (l r r' : String) (extra : List String) :
    labels.values l r extra = labels.values l r' extra := by
  rw [values, values, off]
  rfl

/-! ## Events that differ in the peer -/

/-- Requests that differ in nothing but the peer. -/
structure ServerRequest.Alike (request request' : ServerRequest) : Prop where
  method : request.method = request'.method
  sample : request.sample = request'.sample

/-- Requests that differ in nothing but the peer. -/
structure ClientRequest.Alike (request request' : ClientRequest) : Prop where
  sample : request.sample = request'.sample

namespace Endpoint

/-- Events that differ in nothing but the peer. -/
inductive Event.Alike : Event → Event → Prop
  | connected (host host' : Option String) (port port' : UInt16) :
    Alike (.connected host port) (.connected host' port')
  | disconnected (socket socket' : String) : Alike (.disconnected socket) (.disconnected socket')
  | bytesRead (socket socket' : String) (bytes : UInt64) :
    Alike (.bytesRead socket bytes) (.bytesRead socket' bytes)
  | bytesWritten (socket socket' : String) (bytes : UInt64) :
    Alike (.bytesWritten socket bytes) (.bytesWritten socket' bytes)
  | failed (socket socket' errorClass : String) :
    Alike (.failed socket errorClass) (.failed socket' errorClass)

variable {e : Endpoint} (off : e.labels.hasRemote = false)
include off

/-- Touches for different peers are alike where the peer is no label. -/
lemma touch_alike (template : Template) (r r' : String) (extra : List String) (c : Change α) :
    (e.scope.touch template (e.values r extra) c).Alike
      (e.scope.touch template (e.values r' extra) c) where
  family := rfl
  values := LabelSet.values_eq_of_not_hasRemote off _ r r' extra
  change := .refl c

/-- Like events of an endpoint make like touches. -/
lemma Event.Alike.touches [Amount α] {event event' : Event} (alike : event.Alike event') :
    List.Forall₂ Touch.Alike (event.touches e : List (Touch α)) (event'.touches e) := by
  cases alike with
  | connected => exact .cons (touch_alike off _ _ _ _ _) .nil
  | disconnected => exact .cons (touch_alike off _ _ _ _ _) .nil
  | bytesRead => exact .cons (touch_alike off _ _ _ _ _) .nil
  | bytesWritten => exact .cons (touch_alike off _ _ _ _ _) .nil
  | failed => exact .cons (touch_alike off _ _ _ _ _) .nil

end Endpoint

namespace HttpServer

/-- Events that differ in nothing but the peer and durations. -/
inductive Event.Alike : Event → Event → Prop
  | connection {event event' : Endpoint.Event} (alike : event.Alike event') :
    Alike (.connection event) (.connection event')
  | requestBegun (socket socket' method : String) :
    Alike (.requestBegun socket method) (.requestBegun socket' method)
  | responsePushed (socket socket' method : String) :
    Alike (.responsePushed socket method) (.responsePushed socket' method)
  | requestReset {request request' : ServerRequest} (alike : request.Alike request') :
    Alike (.requestReset request) (.requestReset request')
  | responseEnded {request request' : ServerRequest} (alike : request.Alike request')
    (status : UInt16) (nanos nanos' : Nat) :
    Alike (.responseEnded request status nanos) (.responseEnded request' status nanos')
  | websocketOpened (socket socket' : String) :
    Alike (.websocketOpened socket) (.websocketOpened socket')
  | websocketClosed (websocket websocket' : String) :
    Alike (.websocketClosed websocket) (.websocketClosed websocket')

variable {server : HttpServer} (off : server.endpoint.labels.hasRemote = false)
include off

/-- Like events of the server make like touches. -/
lemma Event.Alike.touches [Amount α] {event event' : Event} (alike : event.Alike event') :
    List.Forall₂ Touch.Alike (event.touches server : List (Touch α)) (event'.touches server) := by
  have touch (template : LabelSet → Template) (r r' : String) (extra : List String)
      (c : Change α) : (server.touch template r extra c).Alike (server.touch template r' extra c) :=
    Endpoint.touch_alike off _ r r' extra c
  cases alike with
  | connection alike => exact alike.touches off
  | requestBegun socket socket' method =>
    have start := Endpoint.touch_alike off (responseTime server.endpoint.labels) socket socket' []
      (.touch : Change α)
    exact .cons (touch ..) (.cons start .nil)
  | responsePushed => exact .cons (touch ..) .nil
  | requestReset => exact .cons (touch ..) (.cons (touch ..) .nil)
  | @responseEnded request request' alike status nanos nanos' =>
    have counted : List.Forall₂ Touch.Alike
        ((request.sample.map fun s => (s.finish nanos : Touch α)).toList)
        ((request'.sample.map fun s => s.finish nanos').toList) := by
      rw [← alike.sample]
      cases request.sample with
      | none => exact .nil
      | some sample => exact .cons (sample.finish_alike nanos nanos') .nil
    refine List.rel_append counted (.cons ?_ (.cons (touch ..) .nil))
    -- the method is a label, so requests that are alike must agree in it
    rw [alike.method]
    exact touch ..
  | websocketOpened => exact .cons (touch ..) .nil
  | websocketClosed => exact .cons (touch ..) .nil

end HttpServer

namespace HttpClient

/-- Events that differ in nothing but the peer and durations. -/
inductive Event.Alike : Event → Event → Prop
  | connection {event event' : Endpoint.Event} (alike : event.Alike event') :
    Alike (.connection event) (.connection event')
  | requestBegun (socket socket' method : String) :
    Alike (.requestBegun socket method) (.requestBegun socket' method)
  | requestReset {request request' : ClientRequest} (alike : request.Alike request') :
    Alike (.requestReset request) (.requestReset request')
  | responseEnded {request request' : ClientRequest} (alike : request.Alike request')
    (status : UInt16) (nanos nanos' : Nat) :
    Alike (.responseEnded request status nanos) (.responseEnded request' status nanos')
  | websocketOpened (socket socket' : String) :
    Alike (.websocketOpened socket) (.websocketOpened socket')
  | websocketClosed (websocket websocket' : String) :
    Alike (.websocketClosed websocket) (.websocketClosed websocket')

variable {client : HttpClient} (off : client.endpoint.labels.hasRemote = false)
include off

/-- Like events of the client make like touches. -/
lemma Event.Alike.touches [Amount α] {event event' : Event} (alike : event.Alike event') :
    List.Forall₂ Touch.Alike (event.touches client : List (Touch α)) (event'.touches client) := by
  have touch (template : LabelSet → Template) (r r' : String) (extra : List String)
      (c : Change α) : (client.touch template r extra c).Alike (client.touch template r' extra c) :=
    Endpoint.touch_alike off _ r r' extra c
  cases alike with
  | connection alike => exact alike.touches off
  | requestBegun socket socket' method =>
    have start := Endpoint.touch_alike off (responseTime client.endpoint.labels) socket socket' []
      (.touch : Change α)
    exact .cons (touch ..) (.cons (touch ..) (.cons start .nil))
  | requestReset => exact .cons (touch ..) .nil
  | @responseEnded request request' alike status nanos nanos' =>
    have counted :
        (request.sample.finish nanos : Touch α).Alike (request'.sample.finish nanos') := by
      rw [← alike.sample]
      exact request.sample.finish_alike nanos nanos'
    exact .cons (touch ..) (.cons (touch ..) (.cons counted .nil))
  | websocketOpened => exact .cons (touch ..) .nil
  | websocketClosed => exact .cons (touch ..) .nil

end HttpClient

/-! ## Scripts -/

/-- What a call hands out for later ones: the label of a connection or websocket, or a request. -/
inductive Station.Token where
  | connection (remoteEnd : String)
  | serverRequest (request : ServerRequest)
  | clientRequest (request : ClientRequest)
  deriving DecidableEq, Repr

/-- Tokens that differ in nothing but the peer. -/
inductive Station.Token.Alike : Station.Token → Station.Token → Prop
  | connection (remoteEnd remoteEnd' : String) :
    Alike (.connection remoteEnd) (.connection remoteEnd')
  | serverRequest {request request' : ServerRequest} (alike : request.Alike request') :
    Alike (.serverRequest request) (.serverRequest request')
  | clientRequest {request request' : ClientRequest} (alike : request.Alike request') :
    Alike (.clientRequest request) (.clientRequest request')

/-- A server or client of connections. -/
inductive Station where
  | netServer (host : Option String) (port : UInt16)
  | netClient (localAddress : Option String)
  | httpServer (host : Option String) (port : UInt16)
  | httpClient (localAddress : Option String)
  deriving DecidableEq, Repr

def Station.direction : Station → Direction
  | netServer _ _ => .server
  | netClient _ => .client
  | httpServer _ _ => .server
  | httpClient _ => .client

/-- A callback. Sockets, websockets and requests are those that an earlier step of the run, given by
its number, has handed out. -/
inductive Call where
  | connected (host : Option String) (port : UInt16)
  | disconnected (socket : Nat)
  | bytesRead (socket : Nat) (bytes : UInt64)
  | bytesWritten (socket : Nat) (bytes : UInt64)
  | failed (socket : Nat) (errorClass : String)
  | requestBegun (socket : Nat) (method : String)
  | responsePushed (socket : Nat) (method : String)
  | requestReset (request : Nat)
  | responseEnded (request : Nat) (status : UInt16) (nanos : Nat)
  | websocketOpened (socket : Nat)
  | websocketClosed (websocket : Nat)
  deriving DecidableEq, Repr

/-- Calls that differ in nothing but the address of the peer that connects, and in the time that a
request takes. -/
inductive Call.Alike : Call → Call → Prop
  | refl (call : Call) : Alike call call
  | connected (host host' : Option String) (port port' : UInt16) :
    Alike (.connected host port) (.connected host' port')
  | responseEnded (request : Nat) (status : UInt16) (nanos nanos' : Nat) :
    Alike (.responseEnded request status nanos) (.responseEnded request status nanos')

/-- What the steps of a run so far have handed out, if anything. -/
abbrev Station.Tokens := List (Option Station.Token)

namespace Station.Tokens

variable (tokens : Station.Tokens)

/-- The token that the step of a number has handed out. -/
def at? (number : Nat) : Option Station.Token := (tokens[number]?).join

/-- The connection or websocket that a step has handed out. -/
def connection? (number : Nat) : Option String :=
  match tokens.at? number with
  | some (.connection remoteEnd) => some remoteEnd
  | _ => none

def serverRequest? (number : Nat) : Option ServerRequest :=
  match tokens.at? number with
  | some (.serverRequest request) => some request
  | _ => none

def clientRequest? (number : Nat) : Option ClientRequest :=
  match tokens.at? number with
  | some (.clientRequest request) => some request
  | _ => none

/-- What a call makes happen to connections, if it is about them. -/
def endpointEvent? : Call → Option Endpoint.Event
  | .connected host port => some (.connected host port)
  | .disconnected socket => (tokens.connection? socket).map .disconnected
  | .bytesRead socket bytes => (tokens.connection? socket).map (.bytesRead · bytes)
  | .bytesWritten socket bytes => (tokens.connection? socket).map (.bytesWritten · bytes)
  | .failed socket errorClass => (tokens.connection? socket).map (.failed · errorClass)
  | _ => none

/-- What a call makes happen at a server of HTTP connections. -/
def serverEvent? : Call → Option HttpServer.Event
  | .requestBegun socket method => (tokens.connection? socket).map (.requestBegun · method)
  | .responsePushed socket method => (tokens.connection? socket).map (.responsePushed · method)
  | .requestReset request => (tokens.serverRequest? request).map .requestReset
  | .responseEnded request status nanos =>
    (tokens.serverRequest? request).map (.responseEnded · status nanos)
  | .websocketOpened socket => (tokens.connection? socket).map .websocketOpened
  | .websocketClosed websocket => (tokens.connection? websocket).map .websocketClosed
  | call => (tokens.endpointEvent? call).map .connection

/-- What a call makes happen at a client of HTTP connections. -/
def clientEvent? : Call → Option HttpClient.Event
  | .requestBegun socket method => (tokens.connection? socket).map (.requestBegun · method)
  | .requestReset request => (tokens.clientRequest? request).map .requestReset
  | .responseEnded request status nanos =>
    (tokens.clientRequest? request).map (.responseEnded · status nanos)
  | .websocketOpened socket => (tokens.connection? socket).map .websocketOpened
  | .websocketClosed websocket => (tokens.connection? websocket).map .websocketClosed
  | call => (tokens.endpointEvent? call).map .connection

end Station.Tokens

section Outcome

variable (α) [Amount α]

/-- What an event hands out. -/
def Endpoint.Event.token? : Endpoint.Event → Option Station.Token
  | connected host port => some (.connection (Label.ofAddress host port))
  | _ => none

def HttpServer.Event.token? (server : HttpServer) : HttpServer.Event → Option Station.Token
  | connection event => event.token?
  | requestBegun socket method =>
    let begun : ServerRequest × List (Touch α) := server.requestBegun socket method
    some (.serverRequest begun.1)
  | responsePushed socket method =>
    let pushed : ServerRequest × List (Touch α) := server.responsePushed socket method
    some (.serverRequest pushed.1)
  | websocketOpened socket => some (.connection socket)
  | _ => none

def HttpClient.Event.token? (client : HttpClient) : HttpClient.Event → Option Station.Token
  | connection event => event.token?
  | requestBegun socket method =>
    let begun : ClientRequest × List (Touch α) := client.requestBegun socket method
    some (.clientRequest begun.1)
  | websocketOpened socket => some (.connection socket)
  | _ => none

/-- The touches that follow from a step, and what it hands out. -/
structure Outcome where
  touches : List (Touch α)
  token? : Option Station.Token

variable {α}

/-- Nothing happens where a call is none of those that there are, or refers to nothing. -/
def Outcome.ofEvent? {ε : Type} (touches : ε → List (Touch α))
    (token? : ε → Option Station.Token) : Option ε → Outcome α
  | some event => ⟨touches event, token? event⟩
  | none => ⟨[], none⟩

/-- The outcome of a call. -/
def Station.outcome (s : Scope) (policy : LabelPolicy) (tokens : Station.Tokens) (call : Call) :
    Station → Outcome α
  | netServer host port =>
    .ofEvent? (Endpoint.Event.touches (Endpoint.netServer s policy host port))
      Endpoint.Event.token? (tokens.endpointEvent? call)
  | netClient localAddress =>
    .ofEvent? (Endpoint.Event.touches (Endpoint.netClient s policy localAddress))
      Endpoint.Event.token? (tokens.endpointEvent? call)
  | httpServer host port =>
    let server := HttpServer.listening s policy host port
    .ofEvent? (HttpServer.Event.touches server) (HttpServer.Event.token? α server)
      (tokens.serverEvent? call)
  | httpClient localAddress =>
    let client := HttpClient.connecting s policy localAddress
    .ofEvent? (HttpClient.Event.touches client) (HttpClient.Event.token? α client)
      (tokens.clientEvent? call)

end Outcome

/-- A call at a server or client that is set up in some scope. -/
structure Step where
  scope : Scope
  station : Station
  call : Call
  deriving DecidableEq, Repr

/-- Steps that differ in nothing but the address of the peer that connects, and in durations. -/
structure Step.Alike (x x' : Step) : Prop where
  scope : x.scope = x'.scope
  station : x.station = x'.station
  call : x.call.Alike x'.call

/-- The layout of the labels where a step is taken. -/
def Step.labels (policies : Nat → LabelPolicy) (x : Step) : LabelSet :=
  (policies x.scope.number).labelSet x.station.direction

/-- How far a run has come. -/
structure Progress (α : Type) where
  hub : Hub α
  tokens : Station.Tokens

/-- A run has come equally far, but for the peers and durations. -/
structure Progress.Alike (p p' : Progress α) : Prop where
  hub : p.hub.Alike p'.hub
  tokens : List.Forall₂ (Option.Rel Station.Token.Alike) p.tokens p'.tokens

section Runs

variable [Amount α] (policies : Nat → LabelPolicy)

/-- Takes a step. -/
def Progress.step (p : Progress α) (x : Step) : Progress α :=
  let outcome : Outcome α :=
    x.station.outcome x.scope (policies x.scope.number) p.tokens x.call
  ⟨p.hub.perform outcome.touches, p.tokens ++ [outcome.token?]⟩

/-- Takes the steps of a run over some hub. -/
def Hub.follow (h : Hub α) (xs : List Step) : Progress α :=
  xs.foldl (Progress.step policies) ⟨h, []⟩

end Runs

/-! ## Runs that differ in the peers -/

namespace Station.Tokens

variable {tokens tokens' : Station.Tokens}
variable (alike : List.Forall₂ (Option.Rel Station.Token.Alike) tokens tokens')
include alike

/-- Like tokens stand under the same number. -/
lemma at?_alike (number : Nat) :
    Option.Rel Station.Token.Alike (tokens.at? number) (tokens'.at? number) := by
  rw [at?, at?]
  induction alike generalizing number with
  | nil => exact .none
  | cons first _ ih =>
    cases number with
    | zero => exact first
    | succ number => exact ih number

/-- A connection is held under the same numbers. -/
lemma connection?_alike (socket : Nat) :
    Option.Rel (fun _ _ => True) (tokens.connection? socket) (tokens'.connection? socket) := by
  have token := at?_alike alike socket
  rw [connection?, connection?]
  generalize tokens.at? socket = token, tokens'.at? socket = token' at token ⊢
  cases token with
  | none => exact .none
  | some alike =>
    cases alike with
    | connection => exact .some trivial
    | _ => exact .none

/-- Like requests of the server are held under the same numbers. -/
lemma serverRequest?_alike (request : Nat) :
    Option.Rel ServerRequest.Alike (tokens.serverRequest? request)
      (tokens'.serverRequest? request) := by
  have token := at?_alike alike request
  rw [serverRequest?, serverRequest?]
  generalize tokens.at? request = token, tokens'.at? request = token' at token ⊢
  cases token with
  | none => exact .none
  | some alike =>
    cases alike with
    | serverRequest alike => exact .some alike
    | _ => exact .none

/-- Like requests of the client are held under the same numbers. -/
lemma clientRequest?_alike (request : Nat) :
    Option.Rel ClientRequest.Alike (tokens.clientRequest? request)
      (tokens'.clientRequest? request) := by
  have token := at?_alike alike request
  rw [clientRequest?, clientRequest?]
  generalize tokens.at? request = token, tokens'.at? request = token' at token ⊢
  cases token with
  | none => exact .none
  | some alike =>
    cases alike with
    | clientRequest alike => exact .some alike
    | _ => exact .none

/-- Like calls are like events of an endpoint. -/
lemma endpointEvent?_alike {call call' : Call} (calls : call.Alike call') :
    Option.Rel Endpoint.Event.Alike (tokens.endpointEvent? call)
      (tokens'.endpointEvent? call') := by
  have socket := connection?_alike alike
  cases calls with
  | refl =>
    cases call with
    | connected host port => exact .some (.connected ..)
    | disconnected => exact rel_map (fun _ => .disconnected ..) (socket _)
    | bytesRead => exact rel_map (fun _ => .bytesRead ..) (socket _)
    | bytesWritten => exact rel_map (fun _ => .bytesWritten ..) (socket _)
    | failed => exact rel_map (fun _ => .failed ..) (socket _)
    | _ => exact .none
  | connected => exact .some (.connected ..)
  | responseEnded => exact .none

/-- Like calls are like events of the server. -/
lemma serverEvent?_alike {call call' : Call} (calls : call.Alike call') :
    Option.Rel HttpServer.Event.Alike (tokens.serverEvent? call) (tokens'.serverEvent? call') := by
  have socket := connection?_alike alike
  have request := serverRequest?_alike alike
  -- a call that is not about requests or websockets is about the connection
  have other {call call' : Call} (calls : call.Alike call') :
      Option.Rel HttpServer.Event.Alike ((tokens.endpointEvent? call).map .connection)
        ((tokens'.endpointEvent? call').map .connection) :=
    rel_map .connection (endpointEvent?_alike alike calls)
  cases calls with
  | refl =>
    cases call with
    | requestBegun => exact rel_map (fun _ => .requestBegun ..) (socket _)
    | responsePushed => exact rel_map (fun _ => .responsePushed ..) (socket _)
    | requestReset => exact rel_map .requestReset (request _)
    | responseEnded => exact rel_map (fun alike => .responseEnded alike ..) (request _)
    | websocketOpened => exact rel_map (fun _ => .websocketOpened ..) (socket _)
    | websocketClosed => exact rel_map (fun _ => .websocketClosed ..) (socket _)
    | connected host port => exact other (.refl (.connected host port))
    | _ => exact other (.refl _)
  | connected => exact other (.connected ..)
  | responseEnded => exact rel_map (fun alike => .responseEnded alike ..) (request _)

/-- Like calls are like events of the client. -/
lemma clientEvent?_alike {call call' : Call} (calls : call.Alike call') :
    Option.Rel HttpClient.Event.Alike (tokens.clientEvent? call) (tokens'.clientEvent? call') := by
  have socket := connection?_alike alike
  have request := clientRequest?_alike alike
  have other {call call' : Call} (calls : call.Alike call') :
      Option.Rel HttpClient.Event.Alike ((tokens.endpointEvent? call).map .connection)
        ((tokens'.endpointEvent? call').map .connection) :=
    rel_map .connection (endpointEvent?_alike alike calls)
  cases calls with
  | refl =>
    cases call with
    | requestBegun => exact rel_map (fun _ => .requestBegun ..) (socket _)
    | requestReset => exact rel_map .requestReset (request _)
    | responseEnded => exact rel_map (fun alike => .responseEnded alike ..) (request _)
    | websocketOpened => exact rel_map (fun _ => .websocketOpened ..) (socket _)
    | websocketClosed => exact rel_map (fun _ => .websocketClosed ..) (socket _)
    | responsePushed => exact .none
    | connected host port => exact other (.refl (.connected host port))
    | _ => exact other (.refl _)
  | connected => exact other (.connected ..)
  | responseEnded => exact rel_map (fun alike => .responseEnded alike ..) (request _)

end Station.Tokens

/-- Like events of an endpoint give like tokens. -/
lemma Endpoint.Event.Alike.token? {event event' : Endpoint.Event} (alike : event.Alike event') :
    Option.Rel Station.Token.Alike event.token? event'.token? := by
  cases alike with
  | connected => exact .some (.connection ..)
  | _ => exact .none

/-- Outcomes that differ in nothing but the peer and durations. -/
structure Outcome.Alike (o o' : Outcome α) : Prop where
  touches : List.Forall₂ Touch.Alike o.touches o'.touches
  token? : Option.Rel Station.Token.Alike o.token? o'.token?

/-- Like events have like outcomes. -/
lemma Outcome.ofEvent?_alike {ε : Type} {R : ε → ε → Prop} {touches : ε → List (Touch α)}
    {token? : ε → Option Station.Token}
    (ofEvent : ∀ {e e'}, R e e' → Outcome.Alike ⟨touches e, token? e⟩ ⟨touches e', token? e'⟩)
    {e? e'? : Option ε} (events : Option.Rel R e? e'?) :
    (Outcome.ofEvent? touches token? e?).Alike (.ofEvent? touches token? e'?) := by
  cases events with
  | none => exact ⟨.nil, .none⟩
  | some related => exact ofEvent related

section Outcomes

variable [Amount α]

/-- Where the remote end is no label, the requests that begin differ in nothing but the peer. -/
lemma HttpServer.Event.Alike.token? {server : HttpServer}
    (off : server.endpoint.labels.hasRemote = false) {event event' : HttpServer.Event}
    (alike : event.Alike event') :
    Option.Rel Station.Token.Alike (event.token? α server) (event'.token? α server) := by
  cases alike with
  | connection alike => exact alike.token?
  | requestBegun socket socket' method =>
    -- the timing is bound to the labels of the socket, which do not tell the peer
    refine .some (.serverRequest ⟨rfl, congrArg some ?_⟩)
    exact congrArg (Sample.of _ _) (LabelSet.values_eq_of_not_hasRemote off ..)
  | responsePushed => exact .some (.serverRequest ⟨rfl, rfl⟩)
  | websocketOpened => exact .some (.connection ..)
  | _ => exact .none

/-- Like events of the client give like tokens. -/
lemma HttpClient.Event.Alike.token? {client : HttpClient}
    (off : client.endpoint.labels.hasRemote = false) {event event' : HttpClient.Event}
    (alike : event.Alike event') :
    Option.Rel Station.Token.Alike (event.token? α client) (event'.token? α client) := by
  cases alike with
  | connection alike => exact alike.token?
  | requestBegun socket socket' method =>
    refine .some (.clientRequest ⟨?_⟩)
    exact congrArg (Sample.of _ _) (LabelSet.values_eq_of_not_hasRemote off ..)
  | websocketOpened => exact .some (.connection ..)
  | _ => exact .none

variable {policies : Nat → LabelPolicy}

/-- A step has the same outcome whoever the peers are. -/
lemma Station.outcome_alike {tokens tokens' : Station.Tokens}
    (alike : List.Forall₂ (Option.Rel Station.Token.Alike) tokens tokens') (s : Scope)
    (policy : LabelPolicy) (station : Station)
    (off : (policy.labelSet station.direction).hasRemote = false)
    {call call' : Call} (calls : call.Alike call') :
    (station.outcome s policy tokens call : Outcome α).Alike
      (station.outcome s policy tokens' call') := by
  cases station with
  | netServer host port =>
    exact Outcome.ofEvent?_alike (fun events => ⟨events.touches off, events.token?⟩)
      (Station.Tokens.endpointEvent?_alike alike calls)
  | netClient localAddress =>
    exact Outcome.ofEvent?_alike (fun events => ⟨events.touches off, events.token?⟩)
      (Station.Tokens.endpointEvent?_alike alike calls)
  | httpServer host port =>
    exact Outcome.ofEvent?_alike (fun events => ⟨events.touches off, events.token? off⟩)
      (Station.Tokens.serverEvent?_alike alike calls)
  | httpClient localAddress =>
    exact Outcome.ofEvent?_alike (fun events => ⟨events.touches off, events.token? off⟩)
      (Station.Tokens.clientEvent?_alike alike calls)

/-- Like steps lead from like progress to like progress. -/
lemma Progress.Alike.step {p p' : Progress α} (alike : p.Alike p') {x x' : Step}
    (steps : x.Alike x') (off : (x.labels policies).hasRemote = false) :
    (p.step policies x).Alike (p'.step policies x') := by
  obtain ⟨scope, station, call⟩ := x
  obtain ⟨scope', station', call'⟩ := x'
  obtain ⟨rfl, rfl, calls⟩ := steps
  have outcomes := Station.outcome_alike (α := α) alike.tokens scope (policies scope.number) station
    off calls
  exact ⟨alike.hub.perform outcomes.touches,
    List.rel_append alike.tokens (.cons outcomes.token? .nil)⟩

/-- Like runs lead to like hubs. -/
lemma Hub.follow_alike (h : Hub α) {xs ys : List Step} (alike : List.Forall₂ Step.Alike xs ys)
    (off : ∀ x ∈ xs, (x.labels policies).hasRemote = false) :
    (h.follow policies xs).Alike (h.follow policies ys) := by
  -- by induction on both runs at once, from any points that they may have come to
  have run {p p' : Progress α} (start : p.Alike p') :
      (xs.foldl (Progress.step policies) p).Alike (ys.foldl (Progress.step policies) p') := by
    induction alike generalizing p p' with
    | nil => exact start
    | cons first _ ih =>
      obtain ⟨here, later⟩ := List.forall_mem_cons.1 off
      exact ih later (start.step first here)
  exact run ⟨.refl h, .nil⟩

/-- Where the remote end is no label, peers do not show: runs over the same hub that differ in
nothing but the addresses of the peers that connect list the same meters in every registry, as many
of each category, and leave all instruments, listed or not, in states that are equal up to
durations. -/
theorem peers_unseen (h : Hub α) {xs ys : List Step} (alike : List.Forall₂ Step.Alike xs ys)
    (off : ∀ x ∈ xs, (x.labels policies).hasRemote = false) (r : RegistryRef) :
    let first := (h.follow policies xs).hub
    let second := (h.follow policies ys).hub
    (first.listings r).map Listing.id = (second.listings r).map Listing.id ∧
      List.Forall₂ Meter.Alike (first.meters r) (second.meters r) ∧
      (∀ m, Option.Rel Instrument.Alike (first.instrument? m) (second.instrument? m)) ∧
      first.size r = second.size r ∧
      ∀ c : Category,
        (first.listings r).countP (fun l => (c.meters.map Prod.fst).contains l.id.name) =
          (second.listings r).countP fun l => (c.meters.map Prod.fst).contains l.id.name := by
  intro first second
  have hubs : first.Alike second := (h.follow_alike alike off).hub
  have listings := hubs.listings r
  exact ⟨by rw [listings], hubs.meters r, hubs.instrument?, hubs.size r, fun c => by rw [listings]⟩

/-- Two peers at a server make as many meters as one that connects twice. -/
theorem peers_unseen_of_two :
    let policies : Nat → LabelPolicy := fun _ => {}
    let step : Call → Step := Step.mk ⟨0, Hub.store⟩ (.httpServer (some "localhost") 8080)
    let xs := [step (.connected (some "a") 1), step (.connected (some "b") 2),
      step (.requestBegun 0 "GET"), step (.requestBegun 1 "GET"), step (.responseEnded 3 200 5)]
    let ys := [step (.connected (some "a") 1), step (.connected (some "a") 1),
      step (.requestBegun 0 "GET"), step (.requestBegun 1 "GET"), step (.responseEnded 3 200 9)]
    let h : Hub ℚ := Hub.ofStore
    (∀ x ∈ xs, (x.labels policies).hasRemote = false) ∧
      (h.follow policies xs).hub.size Hub.store = (h.follow policies ys).hub.size Hub.store ∧
      (h.follow policies ys).hub.size Hub.store = 4 := by
  intro policies step xs ys h
  have off : ∀ x ∈ xs, (x.labels policies).hasRemote = false := by decide
  have same (call : Call) : (step call).Alike (step call) := ⟨rfl, rfl, .refl call⟩
  have alike : List.Forall₂ Step.Alike xs ys :=
    .cons (same _) (.cons ⟨rfl, rfl, .connected ..⟩ (.cons (same _) (.cons (same _)
      (.cons ⟨rfl, rfl, .responseEnded ..⟩ .nil))))
  refine ⟨off, (peers_unseen h alike off Hub.store).2.2.2.1, ?_⟩
  decide +kernel

end Outcomes

end Metering
