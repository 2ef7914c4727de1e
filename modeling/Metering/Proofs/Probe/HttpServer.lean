import Mathlib.Tactic.Linarith
import Metering.Proofs.Probe.Event
import Metering.Proofs.Probe.Layout

/-!
# Accounts of HTTP servers

Any number of HTTP servers over one store, in any number of scopes with label policies of their own.
In a run in which every request and websocket is taken at most once and by the server that made it,
the meters of each tuple of labels tell exactly what happened there (`accounts_of_requests`).
-/

namespace Metering.HttpServer

/-- What a server measures, apart from its connections. -/
inductive Item where
  | requests
  | requestCount
  | requestResetCount
  | responseTime
  | websockets
  deriving DecidableEq, Repr

/-- The templates of a server, apart from those of its connections. -/
def layout : Layout Item where
  template
    | .requests => requests
    | .requestCount => requestCount
    | .requestResetCount => requestResetCount
    | .responseTime => responseTime
    | .websockets => websockets
  name
    | .requests => "vertx_http_server_requests"
    | .requestCount => "vertx_http_server_request_count"
    | .requestResetCount => "vertx_http_server_request_reset_count"
    | .responseTime => "vertx_http_server_response_time"
    | .websockets => "vertx_http_server_ws_connections"
  kind
    | .requests => .gauge
    | .requestCount => .counter
    | .requestResetCount => .counter
    | .responseTime => .timer
    | .websockets => .gauge
  keys
    | .requestCount => [Label.method, Label.code]
    | _ => []
  laid i := by cases i <;> exact ⟨fun _ => rfl, fun _ => rfl, fun _ => rfl⟩
  name_injective i j same := by cases i <;> cases j <;> first | rfl | exact absurd same (by decide)

/-- An event at the server that listens on an address, set up in some scope over the store. -/
structure Occurrence where
  scope : Nat
  host : Option String
  port : UInt16
  event : Event
  deriving DecidableEq, Repr

/-- What a callback of a server hands out for a later one. -/
inductive Token where
  | request (server : HttpServer) (request : ServerRequest)
  | websocket (server : HttpServer) (websocket : String)
  deriving DecidableEq, Repr

/-- Whether a token is a request on a connection with these label values. -/
def Token.isRequestAt (base : List String) : Token → Bool
  | .request server r => server.endpoint.values r.remoteEnd [] = base
  | .websocket _ _ => false

namespace Event

/-- The connection on which a request begins. -/
def begun? : Event → Option String
  | requestBegun socket _ => some socket
  | _ => none

def pushed? : Event → Option String
  | responsePushed socket _ => some socket
  | _ => none

def reset? : Event → Option String
  | requestReset request => some request.remoteEnd
  | _ => none

/-- The connection of a request whose response ends. -/
def ended? : Event → Option String
  | responseEnded request _ _ => some request.remoteEnd
  | _ => none

/-- The connection of a request with a method whose response ends with a status code. -/
def endedAs? (method : String) (status : UInt16) : Event → Option String
  | responseEnded request code _ =>
    if request.method = method ∧ code = status then some request.remoteEnd else none
  | _ => none

/-- The connection of a request that was not pushed and whose response ends. -/
def endedTimed? : Event → Option String
  | responseEnded request _ _ => if request.sample.isSome then some request.remoteEnd else none
  | _ => none

def opened? : Event → Option String
  | websocketOpened socket => some socket
  | _ => none

def closed? : Event → Option String
  | websocketClosed websocket => some websocket
  | _ => none

/-- What an event changes apart from the meters of connections. A pushed response is not timed. -/
def entries : Event → List layout.Entry
  | connection _ => []
  | requestBegun socket _ => [.mk .requests socket [] .up, .mk .responseTime socket [] .touch]
  | responsePushed socket _ => [.mk .requests socket [] .up]
  | requestReset request =>
    [.mk .requestResetCount request.remoteEnd [] .countOne,
      .mk .requests request.remoteEnd [] .down]
  | responseEnded ⟨remoteEnd, method, sample?⟩ status nanos =>
    let untimed : List layout.Entry :=
      [.mk .requestCount remoteEnd [method, String.ofList (Number.natText status.toNat)] .countOne,
        .mk .requests remoteEnd [] .down]
    match sample? with
    | none => untimed
    | some _ => .mk .responseTime remoteEnd [] (.elapse nanos) :: untimed
  | websocketOpened socket => [.mk .websockets socket [] .up]
  | websocketClosed websocket => [.mk .websockets websocket [] .down]

end Event

/-- The timing of a request that begins on a connection. -/
def timing (server : HttpServer) (remoteEnd : String) : Sample :=
  Sample.of server.endpoint.scope (responseTime server.endpoint.labels)
    (server.endpoint.values remoteEnd [])

section Runs

variable (policies : Nat → LabelPolicy)

/-- The server at which an event occurs. -/
def Occurrence.server (x : Occurrence) : HttpServer :=
  listening ⟨x.scope, Hub.store⟩ (policies x.scope) x.host x.port

/-- The touches that follow from an event where it occurs. -/
def Occurrence.touches (x : Occurrence) : List (Touch ℚ) :=
  x.event.touches (x.server policies)

/-- Whether something happens on a connection with these label values. -/
def Occurrence.isAt (what : Event → Option String) (base : List String) (x : Occurrence) : Bool :=
  (what x.event).any fun remoteEnd => (x.server policies).endpoint.values remoteEnd [] = base

/-- How often something happens on connections with these label values. -/
def number (what : Event → Option String) (base : List String) (xs : List Occurrence) : ℕ :=
  xs.countP (Occurrence.isAt policies what base)

/-- Requests and websockets are made at a server and taken there. -/
def trade : Trade Occurrence Token where
  makes x :=
    match x.event with
    | .requestBegun socket method =>
      {.request (x.server policies) (requestBegun (α := ℚ) (x.server policies) socket method).1}
    | .responsePushed socket method =>
      {.request (x.server policies) (responsePushed (α := ℚ) (x.server policies) socket method).1}
    | .websocketOpened socket => {.websocket (x.server policies) socket}
    | _ => 0
  takes x :=
    match x.event with
    | .requestReset request => {.request (x.server policies) request}
    | .responseEnded request _ _ => {.request (x.server policies) request}
    | .websocketClosed websocket => {.websocket (x.server policies) websocket}
    | _ => 0

/-- The hub after a run over an empty store. -/
def run (xs : List Occurrence) : Hub ℚ :=
  Hub.ofStore.perform (xs.flatMap (Occurrence.touches policies))

end Runs

/-- The timing of a request has begun for it at its server. -/
def Token.Genuine : Token → Prop
  | .request server r => ∀ sample ∈ r.sample, sample = server.timing r.remoteEnd
  | .websocket _ _ => True

/-- What an event takes is genuine. -/
def Occurrence.Genuine (policies : Nat → LabelPolicy) (x : Occurrence) : Prop :=
  ∀ token ∈ (trade policies).takes x, token.Genuine

variable {policies : Nat → LabelPolicy} {xs : List Occurrence}

/-- A timing begins with its request, and a pushed response has none. -/
lemma genuine_of_makes (x : Occurrence) : ∀ token ∈ (trade policies).makes x, token.Genuine := by
  obtain ⟨scope, host, port, event⟩ := x
  cases event with
  | requestBegun socket method =>
    refine fun token made => ?_
    rw [Multiset.mem_singleton.1 made]
    exact fun sample timed => (Option.some.inj timed).symm
  | responsePushed socket method =>
    refine fun token made => ?_
    rw [Multiset.mem_singleton.1 made]
    exact nofun
  | websocketOpened socket =>
    refine fun token made => ?_
    rw [Multiset.mem_singleton.1 made]
    trivial
  | _ => exact nofun

/-- In a proper run all that is taken is genuine. -/
lemma genuine_of_proper (proper : (trade policies).Proper xs) {x : Occurrence} (mem : x ∈ xs) :
    x.Genuine policies :=
  proper.forall_takes genuine_of_makes mem

/-- The timing that an event ends is that of its request. -/
lemma Occurrence.Genuine.sample_eq {x : Occurrence} (genuine : x.Genuine policies)
    {request : ServerRequest} {status : UInt16} {nanos : Nat}
    (ends : x.event = .responseEnded request status nanos) :
    ∀ sample ∈ request.sample, sample = (x.server policies).timing request.remoteEnd :=
  genuine (.request (x.server policies) request) (by simp [trade, ends])

/-- A genuine event touches families of the scope of its server only. -/
lemma family_mem {x : Occurrence} (genuine : x.Genuine policies) {t : Touch ℚ}
    (touched : t ∈ x.touches policies) : t.family ∈ Family.catalogue Hub.store policies := by
  have catalogue (template : Template)
      (mem : template ∈ (x.server policies).endpoint.templates ++
        templates (x.server policies).endpoint.labels) :
      (⟨⟨x.scope, Hub.store⟩, template⟩ : Family) ∈ Family.catalogue Hub.store policies :=
    ⟨rfl, .httpServer, mem⟩
  refine (x.event.touches_belong _ t touched).family_mem catalogue fun sample ends => ?_
  cases ended : x.event with
  | responseEnded request status nanos =>
    rw [ended] at ends
    rw [genuine.sample_eq ended sample ends]
    exact catalogue _ (List.mem_append_right _ (by simp [templates]))
  | _ =>
    rw [ended] at ends
    cases ends

/-! ## What an event adds -/

section Gains

variable {x : Occurrence}

/-- The meters of connections have other names. -/
lemma name_notMem (i : Item) : layout.name i ∉ ["vertx_http_server_connections",
    "vertx_http_server_bytes_received", "vertx_http_server_bytes_sent",
    "vertx_http_server_errors"] := by
  cases i <;> decide

/-- What follows from a genuine event is told by its entries. -/
lemma follows (genuine : x.Genuine policies) :
    layout.Follows (x.server policies).endpoint x.event.entries (x.touches policies) := by
  obtain ⟨scope, host, port, event⟩ := x
  cases event with
  | connection event => exact .connection event rfl rfl
  | responseEnded request status nanos =>
    obtain ⟨remoteEnd, method, _ | sample⟩ := request
    · exact .entries rfl
    · have finish : (sample.finish nanos : Touch ℚ) = Sample.finish _ nanos :=
        congrArg (Sample.finish · nanos) (genuine.sample_eq rfl sample rfl)
      refine .entries ?_
      simp only [Occurrence.touches, Event.touches, responseEnded, Option.map_some, finish]
      rfl
  | _ => exact .entries rfl

variable (labels : LabelSet) (l r : String)

/-- Requests in progress are those that begin or are pushed, less those that end or are reset. -/
lemma gain_requests (genuine : x.Genuine policies) :
    let base := labels.values l r []
    Reading.amount.gainOfAll Hub.store ((requests labels).meter base) (x.touches policies) =
      (if x.isAt policies Event.begun? base || x.isAt policies Event.pushed? base then 1 else 0) -
        if x.isAt policies Event.ended? base || x.isAt policies Event.reset? base then 1 else 0 := by
  refine ((follows genuine).gainOfAll Reading.amount (name_notMem .requests) labels l r
    [] rfl).trans ?_
  obtain ⟨scope, host, port, event⟩ := x
  cases event with
  | responseEnded request status nanos =>
    obtain ⟨remoteEnd, method, _ | sample⟩ := request <;>
      simp [Event.entries, Layout.Entry.Concerns, Occurrence.isAt, Endpoint.isOn, layout,
        Event.begun?, Event.pushed?, Event.ended?, Event.reset?, neg_ite]
  | _ =>
    simp [Event.entries, Layout.Entry.Concerns, Occurrence.isAt, Endpoint.isOn, layout,
      Event.begun?, Event.pushed?, Event.ended?, Event.reset?, neg_ite]

/-- Responses are counted by method and status code. -/
lemma gain_requestCount (genuine : x.Genuine policies) (method : String) (status : UInt16) :
    Reading.amount.gainOfAll Hub.store ((requestCount labels).meter
        (labels.values l r [method, String.ofList (Number.natText status.toNat)]))
        (x.touches policies) =
      if x.isAt policies (Event.endedAs? method status) (labels.values l r []) then 1 else 0 := by
  refine ((follows genuine).gainOfAll Reading.amount (name_notMem .requestCount) labels l r
    [method, String.ofList (Number.natText status.toNat)] rfl).trans ?_
  obtain ⟨scope, host, port, event⟩ := x
  cases event with
  | responseEnded request code nanos =>
    obtain ⟨remoteEnd, method', _ | sample⟩ := request <;>
      by_cases same : method' = method ∧ code = status <;>
        simp [Event.entries, Layout.Entry.Concerns, Occurrence.isAt, Endpoint.isOn, layout,
          Event.endedAs?, Number.codeText_inj, same]
  | _ => simp [Event.entries, Layout.Entry.Concerns, Occurrence.isAt, layout, Event.endedAs?]

/-- Open websockets are those that are opened, less those that are closed. -/
lemma gain_websockets (genuine : x.Genuine policies) :
    let base := labels.values l r []
    Reading.amount.gainOfAll Hub.store ((websockets labels).meter base) (x.touches policies) =
      (if x.isAt policies Event.opened? base then 1 else 0) -
        if x.isAt policies Event.closed? base then 1 else 0 := by
  refine ((follows genuine).gainOfAll Reading.amount (name_notMem .websockets) labels l r
    [] rfl).trans ?_
  obtain ⟨scope, host, port, event⟩ := x
  cases event with
  | responseEnded request status nanos =>
    obtain ⟨remoteEnd, method, _ | sample⟩ := request <;>
      simp [Event.entries, Layout.Entry.Concerns, Occurrence.isAt, layout, Event.opened?,
        Event.closed?]
  | _ =>
    simp [Event.entries, Layout.Entry.Concerns, Occurrence.isAt, Endpoint.isOn, layout,
      Event.opened?, Event.closed?, neg_ite]

/-- Responses to requests are timed, unless they were pushed. -/
lemma gain_responseTime (genuine : x.Genuine policies) :
    let base := labels.values l r []
    Reading.timings.gainOfAll Hub.store ((responseTime labels).meter base) (x.touches policies) =
      if x.isAt policies Event.endedTimed? base then 1 else 0 := by
  refine ((follows genuine).gainOfAll Reading.timings (name_notMem .responseTime) labels l r
    [] rfl).trans ?_
  obtain ⟨scope, host, port, event⟩ := x
  cases event with
  | responseEnded request status nanos =>
    obtain ⟨remoteEnd, method, _ | sample⟩ := request <;>
      simp [Event.entries, Layout.Entry.Concerns, Occurrence.isAt, Endpoint.isOn, layout,
        Event.endedTimed?]
  | _ => simp [Event.entries, Layout.Entry.Concerns, Occurrence.isAt, layout, Event.endedTimed?]

end Gains

/-! ## What a run adds up to -/

section Balance

variable (base : List String)

/-- Occurrences of either of two apart sorts are those of the one and those of the other. -/
lemma number_or {what what' : Event → Option String}
    (apart : ∀ e, (what e).isSome → what' e = none) (xs : List Occurrence) :
    xs.countP (fun x => x.isAt policies what base || x.isAt policies what' base) =
      number policies what base xs + number policies what' base xs := by
  refine countP_or (fun x here => ?_) xs
  have happens : (what x.event).isSome := by
    cases none : what x.event with
    | none => simp [Occurrence.isAt, none] at here
    | some => rfl
  simp [Occurrence.isAt, apart x.event happens]

/-- No more requests end or are reset than begin or are pushed. -/
lemma ended_le_begun (proper : (trade policies).Proper xs) :
    number policies Event.ended? base xs + number policies Event.reset? base xs ≤
      number policies Event.begun? base xs + number policies Event.pushed? base xs := by
  have made : Trade.count (Token.isRequestAt base) ((trade policies).made xs) =
      xs.countP fun x => x.isAt policies Event.begun? base || x.isAt policies Event.pushed? base := by
    refine Trade.count_made _ _ (fun x => ?_) xs
    obtain ⟨scope, host, port, event⟩ := x
    simp only [trade, Occurrence.isAt]
    cases event <;>
      simp [Event.begun?, Event.pushed?, Token.isRequestAt, requestBegun, responsePushed]
  have taken : Trade.count (Token.isRequestAt base) ((trade policies).taken xs) =
      xs.countP fun x => x.isAt policies Event.ended? base || x.isAt policies Event.reset? base := by
    refine Trade.count_taken _ _ (fun x => ?_) xs
    obtain ⟨scope, host, port, event⟩ := x
    simp only [trade, Occurrence.isAt]
    cases event <;> simp [Event.ended?, Event.reset?, Token.isRequestAt]
  rw [number_or _ fun e is => by cases e <;> trivial] at made taken
  rw [← made, ← taken]
  exact proper.count_le _

end Balance

end Metering.HttpServer
