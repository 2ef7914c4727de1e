import Mathlib.Tactic.Linarith
import Metering.Proofs.Probe.Event
import Metering.Proofs.Probe.Layout

/-!
# Accounts of HTTP clients

Any number of HTTP clients over one store, in any number of scopes with label policies of their own.
Requests are counted by method when they begin, responses by status code when they end, and a
request that is reset is not timed. In a run in which every request and websocket is taken at most
once and by the client that made it, the meters of each tuple of labels tell exactly what happened
there (`accounts_of_exchanges`).
-/

namespace Metering

namespace HttpClient

/-- What a client measures, apart from its connections. -/
inductive Item where
  | requests
  | requestCount
  | responseTime
  | responseCount
  | websockets
  deriving DecidableEq, Repr

/-- The templates of a client, apart from those of its connections. -/
def layout : Layout Item where
  template
    | .requests => requests
    | .requestCount => requestCount
    | .responseTime => responseTime
    | .responseCount => responseCount
    | .websockets => websockets
  name
    | .requests => "vertx_http_client_requests"
    | .requestCount => "vertx_http_client_request_count"
    | .responseTime => "vertx_http_client_response_time"
    | .responseCount => "vertx_http_client_response_count"
    | .websockets => "vertx_http_client_ws_connections"
  kind
    | .requests => .gauge
    | .requestCount => .counter
    | .responseTime => .timer
    | .responseCount => .counter
    | .websockets => .gauge
  keys
    | .requestCount => [Label.method]
    | .responseCount => [Label.code]
    | _ => []
  laid i := by cases i <;> exact ⟨fun _ => rfl, fun _ => rfl, fun _ => rfl⟩
  name_injective i j same := by cases i <;> cases j <;> first | rfl | exact absurd same (by decide)

/-- An event at the client of a local address, set up in some scope over the store. -/
structure Occurrence where
  scope : Nat
  localAddress : Option String
  event : Event
  deriving DecidableEq, Repr

/-- What a callback of a client hands out for a later one. -/
inductive Token where
  | request (client : HttpClient) (request : ClientRequest)
  | websocket (client : HttpClient) (websocket : String)
  deriving DecidableEq, Repr

/-- Whether a token is a request on a connection with these label values. -/
def Token.isRequestAt (base : List String) : Token → Bool
  | .request client r => client.endpoint.values r.remoteEnd [] = base
  | .websocket _ _ => false

namespace Event

/-- The connection on which a request begins. -/
def begun? : Event → Option String
  | requestBegun socket _ => some socket
  | _ => none

def method? : Event → Option String
  | requestBegun _ method => some method
  | _ => none

def reset? : Event → Option String
  | requestReset request => some request.remoteEnd
  | _ => none

/-- The connection of a request whose response ends. -/
def ended? : Event → Option String
  | responseEnded request _ _ => some request.remoteEnd
  | _ => none

def status? : Event → Option UInt16
  | responseEnded _ status _ => some status
  | _ => none

def opened? : Event → Option String
  | websocketOpened socket => some socket
  | _ => none

def closed? : Event → Option String
  | websocketClosed websocket => some websocket
  | _ => none

/-- What an event changes apart from the meters of connections. -/
def entries : Event → List layout.Entry
  | connection _ => []
  | requestBegun socket method =>
    [.mk .requests socket [] .up, .mk .requestCount socket [method] .countOne,
      .mk .responseTime socket [] .touch]
  | requestReset request => [.mk .requests request.remoteEnd [] .down]
  | responseEnded request status nanos =>
    [.mk .requests request.remoteEnd [] .down,
      .mk .responseCount request.remoteEnd [String.ofList (Number.natText status.toNat)] .countOne,
      .mk .responseTime request.remoteEnd [] (.elapse nanos)]
  | websocketOpened socket => [.mk .websockets socket [] .up]
  | websocketClosed websocket => [.mk .websockets websocket [] .down]

end Event

/-- The timing of a request that begins on a connection. -/
def timing (client : HttpClient) (remoteEnd : String) : Sample :=
  Sample.of client.endpoint.scope (responseTime client.endpoint.labels)
    (client.endpoint.values remoteEnd [])

section Runs

variable (policies : Nat → LabelPolicy)

def Occurrence.client (x : Occurrence) : HttpClient :=
  connecting ⟨x.scope, Hub.store⟩ (policies x.scope) x.localAddress

/-- The touches that follow from an event where it occurs. -/
def Occurrence.touches (x : Occurrence) : List (Touch ℚ) :=
  x.event.touches (x.client policies)

/-- Whether something happens on a connection with these label values. -/
def Occurrence.isAt (what : Event → Option String) (base : List String) (x : Occurrence) : Bool :=
  (what x.event).any fun remoteEnd => (x.client policies).endpoint.values remoteEnd [] = base

/-- How often something happens on connections with these label values. -/
def number (what : Event → Option String) (base : List String) (xs : List Occurrence) : ℕ :=
  xs.countP (Occurrence.isAt policies what base)

/-- Requests and websockets are made at a client and taken there. -/
def trade : Trade Occurrence Token where
  makes x :=
    match x.event with
    | .requestBegun socket method =>
      {.request (x.client policies) (requestBegun (α := ℚ) (x.client policies) socket method).1}
    | .websocketOpened socket => {.websocket (x.client policies) socket}
    | _ => 0
  takes x :=
    match x.event with
    | .requestReset request => {.request (x.client policies) request}
    | .responseEnded request _ _ => {.request (x.client policies) request}
    | .websocketClosed websocket => {.websocket (x.client policies) websocket}
    | _ => 0

/-- The hub after a run over an empty store. -/
def run (xs : List Occurrence) : Hub ℚ :=
  Hub.ofStore.perform (xs.flatMap (Occurrence.touches policies))

end Runs

/-- The timing of a request has begun for it at its client. -/
def Token.Genuine : Token → Prop
  | .request client r => r.sample = client.timing r.remoteEnd
  | .websocket _ _ => True

/-- What an event takes is genuine. -/
def Occurrence.Genuine (policies : Nat → LabelPolicy) (x : Occurrence) : Prop :=
  ∀ token ∈ (trade policies).takes x, token.Genuine

variable {policies : Nat → LabelPolicy} {xs : List Occurrence}

/-- A timing begins with its request. -/
lemma genuine_of_makes (x : Occurrence) : ∀ token ∈ (trade policies).makes x, token.Genuine := by
  obtain ⟨scope, localAddress, event⟩ := x
  cases event with
  | requestBegun socket method =>
    refine fun token made => ?_
    rw [Multiset.mem_singleton.1 made]
    rfl
  | websocketOpened socket =>
    refine fun token made => ?_
    rw [Multiset.mem_singleton.1 made]
    trivial
  | _ => exact nofun

/-- In a proper run all that is taken is genuine. -/
lemma genuine_of_proper (proper : (trade policies).Proper xs) {x : Occurrence} (mem : x ∈ xs) :
    x.Genuine policies :=
  proper.forall_takes genuine_of_makes mem

/-- The timing that an event ends is that of its request. -/
lemma Occurrence.Genuine.sample_eq {x : Occurrence} (genuine : x.Genuine policies)
    {request : ClientRequest} {status : UInt16} {nanos : Nat}
    (ends : x.event = .responseEnded request status nanos) :
    request.sample = (x.client policies).timing request.remoteEnd :=
  genuine (.request (x.client policies) request) (by simp [trade, ends])

/-- A genuine event touches families of the scope of its client only. -/
lemma family_mem {x : Occurrence} (genuine : x.Genuine policies) {t : Touch ℚ}
    (touched : t ∈ x.touches policies) : t.family ∈ Family.catalogue Hub.store policies := by
  have catalogue (template : Template)
      (mem : template ∈ (x.client policies).endpoint.templates ++
        templates (x.client policies).endpoint.labels) :
      (⟨⟨x.scope, Hub.store⟩, template⟩ : Family) ∈ Family.catalogue Hub.store policies :=
    ⟨rfl, .httpClient, mem⟩
  refine (x.event.touches_belong _ t touched).family_mem catalogue fun sample ends => ?_
  cases ended : x.event with
  | responseEnded request status nanos =>
    rw [ended] at ends
    cases ends
    rw [genuine.sample_eq ended]
    exact catalogue _ (List.mem_append_right _ (by simp [templates]))
  | _ =>
    rw [ended] at ends
    cases ends

/-! ## What an event adds -/

section Gains

variable {x : Occurrence}

/-- The meters of connections have other names. -/
lemma name_notMem (i : Item) : layout.name i ∉ ["vertx_http_client_connections",
    "vertx_http_client_bytes_received", "vertx_http_client_bytes_sent",
    "vertx_http_client_errors"] := by
  cases i <;> decide

/-- What follows from a genuine event is told by its entries. -/
lemma follows (genuine : x.Genuine policies) :
    layout.Follows (x.client policies).endpoint x.event.entries (x.touches policies) := by
  obtain ⟨scope, localAddress, event⟩ := x
  cases event with
  | connection event => exact .connection event rfl rfl
  | responseEnded request status nanos =>
    have finish : (request.sample.finish nanos : Touch ℚ) = Sample.finish _ nanos :=
      congrArg (Sample.finish · nanos) (genuine.sample_eq rfl)
    refine .entries ?_
    simp only [Occurrence.touches, Event.touches, responseEnded, finish]
    rfl
  | _ => exact .entries rfl

variable (labels : LabelSet) (l r : String)

/-- Requests wait from their beginning until they end or are reset. -/
lemma gain_requests (genuine : x.Genuine policies) :
    let base := labels.values l r []
    Reading.amount.gainOfAll Hub.store ((requests labels).meter base) (x.touches policies) =
      (if x.isAt policies Event.begun? base then 1 else 0) -
        if x.isAt policies Event.ended? base || x.isAt policies Event.reset? base then 1 else 0 := by
  refine ((follows genuine).gainOfAll Reading.amount (name_notMem .requests) labels l r
    [] rfl).trans ?_
  obtain ⟨scope, localAddress, event⟩ := x
  cases event <;>
    simp [Event.entries, Layout.Entry.Concerns, Occurrence.isAt, Endpoint.isOn, layout,
      Event.begun?, Event.ended?, Event.reset?, neg_ite]

/-- Each request counts once, for its method. -/
lemma gain_requestCount (genuine : x.Genuine policies) (method : String) :
    let base := labels.values l r []
    Reading.amount.gainOfAll Hub.store
        ((requestCount labels).meter (labels.values l r [method])) (x.touches policies) =
      if x.isAt policies Event.begun? base && x.event.method? = some method then 1 else 0 := by
  refine ((follows genuine).gainOfAll Reading.amount (name_notMem .requestCount) labels l r
    [method] rfl).trans ?_
  obtain ⟨scope, localAddress, event⟩ := x
  cases event <;>
    simp [Event.entries, Layout.Entry.Concerns, Occurrence.isAt, Endpoint.isOn, layout,
      Event.begun?, Event.method?]

/-- Each response counts once, for its status. -/
lemma gain_responseCount (genuine : x.Genuine policies) (status : UInt16) :
    let base := labels.values l r []
    Reading.amount.gainOfAll Hub.store ((responseCount labels).meter
        (labels.values l r [String.ofList (Number.natText status.toNat)])) (x.touches policies) =
      if x.isAt policies Event.ended? base && x.event.status? = some status then 1 else 0 := by
  refine ((follows genuine).gainOfAll Reading.amount (name_notMem .responseCount) labels l r
    [String.ofList (Number.natText status.toNat)] rfl).trans ?_
  obtain ⟨scope, localAddress, event⟩ := x
  cases event <;>
    simp [Event.entries, Layout.Entry.Concerns, Occurrence.isAt, Endpoint.isOn, layout,
      Event.ended?, Event.status?, Number.codeText_inj]

/-- Each response times one duration. -/
lemma gain_responseTime (genuine : x.Genuine policies) :
    let base := labels.values l r []
    Reading.timings.gainOfAll Hub.store ((responseTime labels).meter base) (x.touches policies) =
      if x.isAt policies Event.ended? base then 1 else 0 := by
  refine ((follows genuine).gainOfAll Reading.timings (name_notMem .responseTime) labels l r
    [] rfl).trans ?_
  obtain ⟨scope, localAddress, event⟩ := x
  cases event <;>
    simp [Event.entries, Layout.Entry.Concerns, Occurrence.isAt, Endpoint.isOn, layout,
      Event.ended?]

/-- The open websockets go up with each connection and down with its end. -/
lemma gain_websockets (genuine : x.Genuine policies) :
    let base := labels.values l r []
    Reading.amount.gainOfAll Hub.store ((websockets labels).meter base) (x.touches policies) =
      (if x.isAt policies Event.opened? base then 1 else 0) -
        if x.isAt policies Event.closed? base then 1 else 0 := by
  refine ((follows genuine).gainOfAll Reading.amount (name_notMem .websockets) labels l r
    [] rfl).trans ?_
  obtain ⟨scope, localAddress, event⟩ := x
  cases event <;>
    simp [Event.entries, Layout.Entry.Concerns, Occurrence.isAt, Endpoint.isOn, layout,
      Event.opened?, Event.closed?, neg_ite]

end Gains

/-! ## What a run adds up to -/

section Balance

variable (base : List String)

/-- What ends and what is reset does not do so at once. -/
lemma number_ended_or_reset (xs : List Occurrence) :
    xs.countP (fun x => x.isAt policies Event.ended? base || x.isAt policies Event.reset? base) =
      number policies Event.ended? base xs + number policies Event.reset? base xs := by
  refine countP_or (fun x here => ?_) xs
  obtain ⟨scope, localAddress, event⟩ := x
  cases event with
  | responseEnded request status nanos => rfl
  | _ => cases here

/-- No more requests end than have begun. -/
lemma ended_le_begun (proper : (trade policies).Proper xs) :
    number policies Event.ended? base xs + number policies Event.reset? base xs ≤
      number policies Event.begun? base xs := by
  have made : Trade.count (Token.isRequestAt base) ((trade policies).made xs) =
      number policies Event.begun? base xs := by
    refine Trade.count_made _ _ (fun x => ?_) xs
    obtain ⟨scope, localAddress, event⟩ := x
    simp only [trade, Occurrence.isAt]
    cases event <;> simp [Event.begun?, Token.isRequestAt, requestBegun]
  have taken : Trade.count (Token.isRequestAt base) ((trade policies).taken xs) =
      xs.countP fun x => x.isAt policies Event.ended? base || x.isAt policies Event.reset? base := by
    refine Trade.count_taken _ _ (fun x => ?_) xs
    obtain ⟨scope, localAddress, event⟩ := x
    simp only [trade, Occurrence.isAt]
    cases event <;> simp [Event.ended?, Event.reset?, Token.isRequestAt]
  rw [← number_ended_or_reset, ← made, ← taken]
  exact proper.count_le _

end Balance

/-- For every tuple of base labels: the waiting requests are those that began there, less those
that ended or were reset, and never negative; requests are counted by method, responses by status
code, and each response that ended was timed; the open websockets are those opened less those
closed. So the requests of all methods are those that wait, those that were responded to with any
code, and those that were reset. -/
theorem accounts_of_exchanges (proper : (trade policies).Proper xs) (labels : LabelSet)
    (l r : String) :
    let base := labels.values l r []
    let n (what : Event → Option String) : ℕ := number policies what base xs
    let amount (template : LabelSet → Template) (extra : List String) : ℚ :=
      Reading.amount.of (run policies xs) Hub.store
        ((template labels).meter (labels.values l r extra))
    let code (status : UInt16) : String := String.ofList (Number.natText status.toNat)
    amount requests [] = (n Event.begun? : ℚ) - n Event.ended? - n Event.reset? ∧
    0 ≤ amount requests [] ∧
    (∀ method, amount requestCount [method] =
      xs.countP fun x => x.isAt policies Event.begun? base && x.event.method? = some method) ∧
    (∀ status, amount responseCount [code status] =
      xs.countP fun x => x.isAt policies Event.ended? base && x.event.status? = some status) ∧
    Reading.timings.of (run policies xs) Hub.store ((responseTime labels).meter base) =
      UInt64.ofNat (n Event.ended?) ∧
    amount websockets [] = (n Event.opened? : ℚ) - n Event.closed? ∧
    ∑ᶠ method, amount requestCount [method] =
      amount requests [] + ∑ᶠ status, amount responseCount [code status] + n Event.reset? := by
  intro base n amount code
  have genuine (x : Occurrence) (mem : x ∈ xs) : x.Genuine policies := genuine_of_proper proper mem
  have members := Family.catalogue_of_run fun x mem t => family_mem (t := t) (genuine x mem)
  have settled (x : Occurrence) := x.event.settled (α := ℚ) (x.client policies)
  have reading (template : LabelSet → Template) (extra : List String) :=
    Reading.amount.of_run members settled ((template labels).meter (labels.values l r extra))
  have waiting : amount requests [] = (n Event.begun? : ℚ) - n Event.ended? - n Event.reset? := by
    have run := Reading.amount_gainOfAll_sub fun x mem => gain_requests labels l r (genuine x mem)
    rw [number_ended_or_reset, Nat.cast_add, ← sub_sub] at run
    exact (reading requests []).trans run
  have begun (method : String) : amount requestCount [method] =
      xs.countP fun x => x.isAt policies Event.begun? base && x.event.method? = some method :=
    (reading requestCount _).trans
      (Reading.amount_gainOfAll fun x mem => gain_requestCount labels l r (genuine x mem) method)
  have ended (status : UInt16) : amount responseCount [code status] =
      xs.countP fun x => x.isAt policies Event.ended? base && x.event.status? = some status :=
    (reading responseCount _).trans
      (Reading.amount_gainOfAll fun x mem => gain_responseCount labels l r (genuine x mem) status)
  have times : Reading.timings.of (run policies xs) Hub.store ((responseTime labels).meter base) =
      UInt64.ofNat (n Event.ended?) :=
    (Reading.timings.of_run members settled _).trans
      (Reading.timings_gainOfAll fun x mem => gain_responseTime labels l r (genuine x mem))
  have open_ : amount websockets [] = (n Event.opened? : ℚ) - n Event.closed? :=
    (reading websockets []).trans
      (Reading.amount_gainOfAll_sub fun x mem => gain_websockets labels l r (genuine x mem))
  -- every request has one method and every response one code, so that the sums count them all
  have methods : ∑ᶠ method, amount requestCount [method] = n Event.begun? := by
    refine (finsum_congr begun).trans (finsum_countP_and (fun x here => ?_) xs)
    obtain ⟨scope, localAddress, event⟩ := x
    cases event with
    | requestBegun => rfl
    | _ => cases here
  have codes : ∑ᶠ status, amount responseCount [code status] = n Event.ended? := by
    refine (finsum_congr ended).trans (finsum_countP_and (fun x here => ?_) xs)
    obtain ⟨scope, localAddress, event⟩ := x
    cases event with
    | responseEnded => rfl
    | _ => cases here
  refine ⟨waiting, ?_, begun, ended, times, open_, ?_⟩
  -- what ends takes a token that a request has made
  · have le : ((n Event.ended? + n Event.reset? : ℕ) : ℚ) ≤ (n Event.begun? : ℕ) :=
      Nat.cast_le.2 (ended_le_begun base proper)
    rw [Nat.cast_add] at le
    rw [waiting]
    linarith
  · rw [methods, codes, waiting]
    ring

/-- A request that is reset, one that is responded to and one that waits, at two clients that share
one tuple. -/
theorem accounts_of_reset_and_response :
    let policies : Nat → LabelPolicy := fun _ => {}
    let event (scope : Nat) : Event → Occurrence := Occurrence.mk scope none
    let client (scope : Nat) := (event scope (.websocketOpened "")).client policies
    let xs := [event 0 (.requestBegun "a:1" "GET"), event 1 (.requestBegun "a:1" "POST"),
      event 0 (.requestReset ⟨"a:1", (client 0).timing "a:1"⟩),
      event 1 (.requestBegun "a:1" "GET"),
      event 1 (.responseEnded ⟨"a:1", (client 1).timing "a:1"⟩ 200 5)]
    let base := ["?", "a:1"]
    (trade policies).Proper xs ∧
      Reading.amount.of (run policies xs) Hub.store ((requests ⟨true⟩).meter base) = 1 ∧
      Reading.amount.of (run policies xs) Hub.store
        ((requestCount ⟨true⟩).meter (base ++ ["GET"])) = 2 ∧
      Reading.amount.of (run policies xs) Hub.store
        ((responseCount ⟨true⟩).meter (base ++ ["200"])) = 1 ∧
      Reading.timings.of (run policies xs) Hub.store ((responseTime ⟨true⟩).meter base) = 1 := by
  intro policies event client xs base
  have proper : (trade policies).Proper xs := by decide +kernel
  have all := accounts_of_exchanges proper ⟨true⟩ "?" "a:1"
  refine ⟨proper, all.1.trans ?_, (all.2.2.1 "GET").trans ?_, (all.2.2.2.1 200).trans ?_,
    all.2.2.2.2.1.trans ?_⟩
  · decide +kernel
  · decide +kernel
  · decide +kernel
  · decide +kernel

end HttpClient

end Metering
