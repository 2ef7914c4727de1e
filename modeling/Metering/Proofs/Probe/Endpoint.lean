import Metering.Proofs.Hub.Summary
import Metering.Proofs.Probe.Layout
import Metering.Proofs.Probe.Peers

/-!
# Accounts of connections

Any number of servers and clients of plain and HTTP connections over one store, in any number of
scopes with label policies of their own. In a run in which every socket is disconnected at most once
and at the end that made it, the meters of each tuple of labels tell exactly what happened there
(`accounts_of_connections`).
-/

namespace Metering

/-- The end of the connections of a server or client that is set up in a scope. -/
def Station.endpoint (s : Scope) (policy : LabelPolicy) : Station → Endpoint
  | netServer host port => .netServer s policy host port
  | netClient localAddress => .netClient s policy localAddress
  | httpServer host port => (HttpServer.listening s policy host port).endpoint
  | httpClient localAddress => (HttpClient.connecting s policy localAddress).endpoint

namespace Endpoint

/-- What is measured at an end of connections. -/
inductive Measure where
  | connections
  | bytesReceived
  | bytesSent
  | errors
  deriving DecidableEq, Repr

namespace Measure

def kind : Measure → Kind
  | connections => .gauge
  | bytesReceived => .summary
  | bytesSent => .summary
  | errors => .counter

/-- The names of the labels besides those of the two ends. -/
def keys : Measure → List String
  | errors => [Label.errorClass]
  | _ => []

end Measure

/-- A template of the ends of connections of one protocol and direction. -/
structure Item where
  protocol : Protocol
  direction : Direction
  measure : Measure
  deriving DecidableEq, Repr

/-- What is measured at this end. -/
def item (e : Endpoint) (measure : Measure) : Item :=
  ⟨e.protocol, e.direction, measure⟩

/-- The template of what is measured at an end. -/
def template (e : Endpoint) : Measure → Template
  | .connections => e.connections
  | .bytesReceived => e.bytesReceived
  | .bytesSent => e.bytesSent
  | .errors => e.errors

namespace Item

/-- The template of an item where the labels are laid out in some way. -/
def template (i : Item) (labels : LabelSet) : Template :=
  Endpoint.template ⟨⟨0, ⟨0⟩⟩, i.protocol, i.direction, labels, ""⟩ i.measure

def all : List Item :=
  [Protocol.net, .http].flatMap fun protocol => [Direction.client, .server].flatMap fun direction =>
    [Measure.connections, .bytesReceived, .bytesSent, .errors].map fun measure =>
      ⟨protocol, direction, measure⟩

/-- The list has all items. -/
lemma mem_all (i : Item) : i ∈ all := by
  obtain ⟨protocol, direction, measure⟩ := i
  cases protocol <;> cases direction <;> cases measure <;> decide

/-- No two items share a name. -/
lemma nodup_names : (all.map fun i => (i.template ⟨false⟩).name).Nodup := by
  decide +kernel

end Item

/-- The templates of the ends of connections. -/
def layout : Layout Item where
  template := Item.template
  name i := (i.template ⟨false⟩).name
  kind i := i.measure.kind
  keys i := i.measure.keys
  laid i := by
    obtain ⟨protocol, direction, measure⟩ := i
    cases measure <;> exact ⟨fun _ => rfl, fun _ => rfl, fun _ => rfl⟩
  name_injective i j same :=
    List.inj_on_of_nodup_map Item.nodup_names i.mem_all j.mem_all same

/-- The templates of an endpoint are those of the layout. -/
lemma template_eq (e : Endpoint) (measure : Measure) :
    e.template measure = layout.template (e.item measure) e.labels := by
  cases measure <;> rfl

namespace Event

/-- What an event is measured by. -/
def measure : Event → Measure
  | connected _ _ => .connections
  | disconnected _ => .connections
  | bytesRead _ _ => .bytesReceived
  | bytesWritten _ _ => .bytesSent
  | failed _ _ => .errors

/-- The label of the other end of the connection that an event is about. -/
def remoteEnd : Event → String
  | connected host port => Label.ofAddress host port
  | disconnected socket => socket
  | bytesRead socket _ => socket
  | bytesWritten socket _ => socket
  | failed socket _ => socket

/-- The values of further labels. -/
def extra : Event → List String
  | failed _ errorClass => [errorClass]
  | _ => []

def change : Event → Change ℚ
  | connected _ _ => .up
  | disconnected _ => .down
  | bytesRead _ bytes => .observe (Amount.ofCount bytes)
  | bytesWritten _ bytes => .observe (Amount.ofCount bytes)
  | failed _ _ => .countOne

end Event

/-- What an event changes. -/
def entry (e : Endpoint) (event : Event) : layout.Entry where
  item := e.item event.measure
  remoteEnd := event.remoteEnd
  extra := event.extra
  change := event.change
  size := by cases event <;> rfl

/-- An event touches the meter of its one entry. -/
lemma touches_eq (e : Endpoint) (event : Event) :
    (event.touches e : List (Touch ℚ)) = [(e.entry event).touch e.scope e.labels e.localEnd] := by
  cases event <;> rfl

/-- An event at a server or client that is set up in some scope over the store. -/
structure Occurrence where
  scope : Nat
  station : Station
  event : Event
  deriving DecidableEq, Repr

/-- The socket of a connection, at the end that made it. -/
structure Socket where
  endpoint : Endpoint
  remoteEnd : String
  deriving DecidableEq, Repr

namespace Event

def opened? : Event → Option String
  | connected host port => some (Label.ofAddress host port)
  | _ => none

def closed? : Event → Option String
  | disconnected socket => some socket
  | _ => none

/-- The connection on which an error of some class occurs. -/
def failedAs? (errorClass : String) : Event → Option String
  | failed socket class' => if class' = errorClass then some socket else none
  | _ => none

/-- The connection over which bytes are received, and how many. -/
def received? : Event → Option (String × UInt64)
  | bytesRead socket bytes => some (socket, bytes)
  | _ => none

/-- The connection over which bytes are sent, and how many. -/
def sent? : Event → Option (String × UInt64)
  | bytesWritten socket bytes => some (socket, bytes)
  | _ => none

end Event

/-- Exactly the bytes that go into a summary are reported. -/
structure Reports (measure : Measure) (what : Event → Option (String × UInt64)) : Prop where
  kind : measure.kind = .summary
  keys : measure.keys = []
  silent {event : Event} : what event = none → event.measure ≠ measure
  measure {event : Event} {report : String × UInt64} : what event = some report →
    event.measure = measure ∧ event.extra = []
  remoteEnd {event : Event} {report : String × UInt64} : what event = some report →
    event.remoteEnd = report.1
  change {event : Event} {report : String × UInt64} : what event = some report →
    event.change = .observe (report.2.toNat : ℚ)

/-- The bytes received are what the events of this measure report. -/
lemma reports_received : Reports .bytesReceived Event.received? where
  kind := rfl
  keys := rfl
  silent {event} none measured := by cases event <;> trivial
  measure {event _} some := by cases event <;> cases some; exact ⟨rfl, rfl⟩
  remoteEnd {event _} some := by cases event <;> cases some; rfl
  change {event _} some := by cases event <;> cases some; rfl

/-- The bytes sent are what the events of this measure report. -/
lemma reports_sent : Reports .bytesSent Event.sent? where
  kind := rfl
  keys := rfl
  silent {event} none measured := by cases event <;> trivial
  measure {event _} some := by cases event <;> cases some; exact ⟨rfl, rfl⟩
  remoteEnd {event _} some := by cases event <;> cases some; rfl
  change {event _} some := by cases event <;> cases some; rfl

/-- Sockets of one protocol and direction with the same label values share their meters. -/
def Socket.Shares (socket socket' : Socket) : Prop :=
  (socket.endpoint.protocol = socket'.endpoint.protocol ∧
    socket.endpoint.direction = socket'.endpoint.direction) ∧
    socket.endpoint.values socket.remoteEnd [] = socket'.endpoint.values socket'.remoteEnd []

instance (socket socket' : Socket) : Decidable (socket.Shares socket') :=
  inferInstanceAs (Decidable ((_ ∧ _) ∧ _))

section Runs

variable (policies : Nat → LabelPolicy)

/-- The end of connections at which an event occurs. -/
def Occurrence.endpoint (x : Occurrence) : Endpoint :=
  x.station.endpoint ⟨x.scope, Hub.store⟩ (policies x.scope)

/-- The touches that follow from an event where it occurs. -/
def Occurrence.touches (x : Occurrence) : List (Touch ℚ) :=
  x.event.touches (x.endpoint policies)

/-- The one touch that follows from an event. -/
def Occurrence.touch (x : Occurrence) : Touch ℚ :=
  let e := x.endpoint policies
  (e.entry x.event).touch e.scope e.labels e.localEnd

/-- The hub after a run over an empty store. -/
def run (xs : List Occurrence) : Hub ℚ :=
  Hub.ofStore.perform (xs.flatMap (Occurrence.touches policies))

/-- Sockets are made at an end of connections and disconnected there. -/
def trade : Trade Occurrence Socket where
  makes x :=
    match x.event with
    | .connected host port => {⟨x.endpoint policies, Label.ofAddress host port⟩}
    | _ => 0
  takes x :=
    match x.event with
    | .disconnected socket => {⟨x.endpoint policies, socket⟩}
    | _ => 0

/-- Whether something happens on a socket that shares the meters of another one. -/
def Occurrence.isAt (what : Event → Option String) (socket : Socket) (x : Occurrence) : Bool :=
  (what x.event).any fun remoteEnd => Socket.Shares ⟨x.endpoint policies, remoteEnd⟩ socket

/-- How often something happens on sockets that share the meters of another one. -/
def number (what : Event → Option String) (socket : Socket) (xs : List Occurrence) : ℕ :=
  xs.countP (Occurrence.isAt policies what socket)

/-- The bytes that an event reports on a socket that shares the meters of another one. -/
def Occurrence.bytes? (what : Event → Option (String × UInt64)) (socket : Socket)
    (x : Occurrence) : Option ℕ :=
  (what x.event).bind fun report =>
    if Socket.Shares ⟨x.endpoint policies, report.1⟩ socket then some report.2.toNat else none

end Runs

variable {policies : Nat → LabelPolicy} {xs : List Occurrence}

/-- The endpoint of an occurrence has its scope. -/
lemma Occurrence.scope_endpoint (x : Occurrence) :
    (x.endpoint policies).scope = ⟨x.scope, Hub.store⟩ := by
  obtain ⟨scope, station, event⟩ := x
  cases station <;> rfl

/-- All touches of a run are of the catalogue and of the one registry. -/
lemma family_mem {t : Touch ℚ} (mem : t ∈ xs.flatMap (Occurrence.touches policies)) :
    t.family ∈ Family.catalogue Hub.store policies ∧ t.registry ∈ ({Hub.store} : Set _) := by
  refine Family.catalogue_of_run (fun x _ t touched => ?_) t mem
  obtain ⟨scope, station, event⟩ := x
  refine (event.touches_belong _ none t touched).family_mem (fun template mem => ?_) nofun
  rw [Occurrence.scope_endpoint]
  cases station with
  | netServer host port => exact ⟨rfl, .netServer, mem⟩
  | netClient localAddress => exact ⟨rfl, .netClient, mem⟩
  | httpServer host port => exact ⟨rfl, .httpServer, List.mem_append_left _ mem⟩
  | httpClient localAddress => exact ⟨rfl, .httpClient, List.mem_append_left _ mem⟩

/-! ## What an event adds -/

section Gains

variable (x : Occurrence) (socket : Socket)

/-- Whether an event changes the meter of a socket for some measure and further label values. -/
def Occurrence.Concerns (policies : Nat → LabelPolicy) (x : Occurrence) (socket : Socket)
    (measure : Measure) (extra : List String) : Prop :=
  (x.event.measure = measure ∧ x.event.extra = extra) ∧
    Socket.Shares ⟨x.endpoint policies, x.event.remoteEnd⟩ socket

instance (measure : Measure) (extra : List String) :
    Decidable (x.Concerns policies socket measure extra) :=
  inferInstanceAs (Decidable ((_ ∧ _) ∧ _))

/-- An occurrence is one touch. -/
lemma touches_eq_singleton : x.touches policies = [x.touch policies] :=
  touches_eq ..

/-- The touch of an occurrence is in the one registry. -/
lemma registry_touch : (x.touch policies).registry = Hub.store :=
  congrArg Scope.registry x.scope_endpoint

/-- The touch of an occurrence has the kind of its measure. -/
lemma kind_touch : (x.touch policies).kind = x.event.measure.kind :=
  (layout.laid _).kind _

/-- The touch of an event is one of the meter that the event concerns. -/
lemma id_touch (measure : Measure) {extra : List String} (size : extra.length = measure.keys.length) :
    (socket.endpoint.template measure).meter (socket.endpoint.values socket.remoteEnd extra) =
        (x.touch policies).id ↔ x.Concerns policies socket measure extra := by
  rw [template_eq]
  refine (((x.endpoint policies).entry x.event).id_touch (x.endpoint policies).scope
    (x.endpoint policies).labels socket.endpoint.labels (x.endpoint policies).localEnd
    socket.endpoint.localEnd socket.remoteEnd size).trans ?_
  simp only [Layout.Entry.Concerns, Bool.and_eq_true, decide_eq_true_eq]
  simp only [entry, item, Item.mk.injEq]
  constructor
  · rintro ⟨⟨⟨protocol, direction, measured⟩, values⟩, more⟩
    exact ⟨⟨measured, more⟩, ⟨protocol, direction⟩, values⟩
  · rintro ⟨⟨measured, more⟩, ⟨protocol, direction⟩, values⟩
    exact ⟨⟨⟨protocol, direction, measured⟩, values⟩, more⟩

/-- An event raises the amount of a meter by its change, if it concerns the meter. -/
lemma gainOfAll_touches (measure : Measure) (extra : List String)
    (size : extra.length = measure.keys.length) :
    Reading.amount.gainOfAll Hub.store ((socket.endpoint.template measure).meter
        (socket.endpoint.values socket.remoteEnd extra)) (x.touches policies) =
      if x.Concerns policies socket measure extra then
        Reading.amount.gain x.event.measure.kind x.event.change
      else 0 := by
  rw [touches_eq_singleton, Reading.gainOfAll_cons, Reading.gainOfAll_nil, add_zero,
    Reading.gainOf, kind_touch, registry_touch]
  exact if_congr ((and_iff_right rfl).trans (id_touch x socket measure size)) rfl rfl

/-- Open connections are those that are opened, less those that are closed. -/
lemma gain_connections :
    Reading.amount.gainOfAll Hub.store (socket.endpoint.connections.meter
        (socket.endpoint.values socket.remoteEnd [])) (x.touches policies) =
      (if x.isAt policies Event.opened? socket then 1 else 0) -
        if x.isAt policies Event.closed? socket then 1 else 0 := by
  refine (gainOfAll_touches x socket .connections [] rfl).trans ?_
  obtain ⟨scope, station, event⟩ := x
  cases event <;>
    simp [Occurrence.Concerns, Occurrence.isAt, Event.measure, Event.extra, Event.remoteEnd,
      Event.change, Event.opened?, Event.closed?, Measure.kind, neg_ite]

/-- A failure counts once for its class, at its socket. -/
lemma gain_errors (errorClass : String) :
    Reading.amount.gainOfAll Hub.store (socket.endpoint.errors.meter
        (socket.endpoint.values socket.remoteEnd [errorClass])) (x.touches policies) =
      if x.isAt policies (Event.failedAs? errorClass) socket then 1 else 0 := by
  refine (gainOfAll_touches x socket .errors [errorClass] rfl).trans ?_
  obtain ⟨scope, station, event⟩ := x
  cases event with
  | failed remoteEnd class' =>
    by_cases same : class' = errorClass <;>
      simp [Occurrence.Concerns, Occurrence.isAt, Event.measure, Event.extra, Event.remoteEnd,
        Event.change, Event.failedAs?, Measure.kind, same]
  | _ => simp [Occurrence.Concerns, Occurrence.isAt, Event.measure, Event.failedAs?]

/-- The touches of an event that are those of a summary record the bytes that the event reports. -/
lemma records_touches {measure : Measure} {what : Event → Option (String × UInt64)}
    (reports : Reports measure what) :
    List.Forall₂ Touch.Records
      ((x.touches policies).filter fun t => Hub.store = t.registry ∧
        (socket.endpoint.template measure).meter (socket.endpoint.values socket.remoteEnd []) = t.id)
      (x.bytes? policies what socket).toList := by
  have concerned : (Hub.store = (x.touch policies).registry ∧
      (socket.endpoint.template measure).meter (socket.endpoint.values socket.remoteEnd []) =
        (x.touch policies).id) ↔ x.Concerns policies socket measure [] :=
    (and_iff_right (registry_touch x).symm).trans (id_touch x socket measure (by rw [reports.keys]))
  rw [touches_eq_singleton, List.filter_singleton, Occurrence.bytes?, decide_eq_decide.2 concerned]
  cases reported : what x.event with
  | none =>
    have unconcerned : ¬ x.Concerns policies socket measure [] := fun concerns =>
      reports.silent reported concerns.1.1
    rw [decide_eq_false unconcerned]
    exact .nil
  | some report =>
    have measured := reports.measure reported
    rw [Option.bind_some, ← reports.remoteEnd reported]
    by_cases shares : Socket.Shares ⟨x.endpoint policies, x.event.remoteEnd⟩ socket
    · have concerns : x.Concerns policies socket measure [] := ⟨measured, shares⟩
      have kind : (x.touch policies).kind = .summary := by
        rw [kind_touch, measured.1, reports.kind]
      rw [decide_eq_true concerns, if_pos shares]
      exact .cons ⟨kind, reports.change reported⟩ .nil
    · have unconcerned : ¬ x.Concerns policies socket measure [] := fun concerns =>
        shares concerns.2
      rw [decide_eq_false unconcerned, if_neg shares]
      exact .nil

end Gains

/-! ## What a run adds up to -/

section Balance

variable (socket : Socket)

/-- No more sockets are disconnected than were connected. -/
lemma closed_le_opened (proper : (trade policies).Proper xs) :
    number policies Event.closed? socket xs ≤ number policies Event.opened? socket xs := by
  let sort (s : Socket) : Bool := s.Shares socket
  have made : Trade.count sort ((trade policies).made xs) =
      number policies Event.opened? socket xs := by
    refine Trade.count_made _ _ (fun x => ?_) xs
    obtain ⟨scope, station, event⟩ := x
    simp only [trade, Occurrence.isAt]
    cases event <;> simp [Event.opened?, sort]
  have taken : Trade.count sort ((trade policies).taken xs) =
      number policies Event.closed? socket xs := by
    refine Trade.count_taken _ _ (fun x => ?_) xs
    obtain ⟨scope, station, event⟩ := x
    simp only [trade, Occurrence.isAt]
    cases event <;> simp [Event.closed?, sort]
  rw [← made, ← taken]
  exact proper.count_le _

/-- After a run an amount is what the touches have added. -/
lemma amount_run (id : MeterId) :
    Reading.amount.of (run policies xs) Hub.store id =
      Reading.amount.gainOfAll Hub.store id (xs.flatMap (Occurrence.touches policies)) :=
  Reading.amount.of_run (fun _ mem => family_mem mem) (fun x => x.event.settled _) id

/-- After a run a summary is that of the bytes that were reported. -/
lemma summary_run {measure : Measure} {what : Event → Option (String × UInt64)}
    (reports : Reports measure what) :
    (run policies xs).stateOf Hub.store ((socket.endpoint.template measure).meter
        (socket.endpoint.values socket.remoteEnd [])) =
      Summary.meter? (xs.filterMap (Occurrence.bytes? policies what socket)) :=
  Hub.sound_ofStore.stateOf_summary Family.apart_catalogue Family.concordant_catalogue rfl
    (fun _ mem => family_mem mem) fun x _ => records_touches x socket reports

end Balance

/-- For the meters of every socket: the open connections are those opened less those closed there,
which are never more; the summaries show exactly the bytes received and sent there, and do not exist
before; and errors are counted by class. Where the remote end is a label, sockets share their label
values if and only if the local labels and the addresses agree. -/
theorem accounts_of_connections (proper : (trade policies).Proper xs) (socket : Socket) :
    let e := socket.endpoint
    let n (what : Event → Option String) : ℕ := number policies what socket xs
    let bytes (what : Event → Option (String × UInt64)) : List ℕ :=
      xs.filterMap (Occurrence.bytes? policies what socket)
    let amount (template : Template) (extra : List String) : ℚ :=
      Reading.amount.of (run policies xs) Hub.store
        (template.meter (e.values socket.remoteEnd extra))
    let summary (template : Template) : Option (Instrument ℚ) :=
      (run policies xs).stateOf Hub.store (template.meter (e.values socket.remoteEnd []))
    (amount e.connections [] = (n Event.opened? : ℚ) - n Event.closed? ∧
      0 ≤ amount e.connections []) ∧
    summary e.bytesReceived = Summary.meter? (bytes Event.received?) ∧
    summary e.bytesSent = Summary.meter? (bytes Event.sent?) ∧
    (∀ errorClass, amount e.errors [errorClass] = n (Event.failedAs? errorClass)) ∧
    ∀ (e' : Endpoint) (host host' : Option String) (port port' : UInt16),
      e.labels.hasRemote → e'.labels.hasRemote →
      (e.values (Label.ofAddress host port) [] = e'.values (Label.ofAddress host' port') [] ↔
        e.localEnd = e'.localEnd ∧
          host.getD "?" ++ ":" ++ toString port.toNat =
            host'.getD "?" ++ ":" ++ toString port'.toNat) := by
  intro e n bytes amount summary
  have connections : amount e.connections [] = (n Event.opened? : ℚ) - n Event.closed? :=
    (amount_run _).trans (Reading.amount_gainOfAll_sub fun x _ => gain_connections x socket)
  refine ⟨⟨connections, ?_⟩, ?_, ?_, fun errorClass => ?_, ?_⟩
  · rw [connections, sub_nonneg, Nat.cast_le]
    exact closed_le_opened socket proper
  · exact summary_run socket reports_received
  · exact summary_run socket reports_sent
  · exact (amount_run _).trans
      (Reading.amount_gainOfAll fun x _ => gain_errors x socket errorClass)
  · intro e' host host' port port' on on'
    have address (host : Option String) (port : UInt16) :
        Label.ofAddress host port = host.getD "?" ++ ":" ++ toString port.toNat := rfl
    rw [← address, ← address, values, values, LabelSet.values, LabelSet.values, if_pos on,
      if_pos on', List.cons.injEq, List.cons.injEq, and_iff_left rfl]

/-- A peer of an HTTP client that has closed one of two connections, and sent bytes over both; the
socket of a plain client with the same labels does not share their meters. -/
theorem accounts_of_two_sockets :
    let policies : Nat → LabelPolicy := fun _ => {}
    let http : Event → Occurrence := Occurrence.mk 0 (.httpClient none)
    let net : Event → Occurrence := Occurrence.mk 0 (.netClient none)
    let xs := [http (.connected (some "a") 80), http (.connected (some "a") 80),
      net (.connected (some "a") 80), http (.bytesRead "a:80" 3), net (.bytesRead "a:80" 7),
      http (.bytesRead "a:80" 5), http (.failed "a:80" "Reset"), http (.disconnected "a:80")]
    let e := (http (.disconnected "")).endpoint policies
    (trade policies).Proper xs ∧
      Reading.amount.of (run policies xs) Hub.store (e.connections.meter ["?", "a:80"]) = 1 ∧
      (run policies xs).stateOf Hub.store (e.bytesReceived.meter ["?", "a:80"]) =
        some (.summary ⟨2, 8, 5⟩) ∧
      (run policies xs).stateOf Hub.store (e.bytesSent.meter ["?", "a:80"]) = none ∧
      Reading.amount.of (run policies xs) Hub.store (e.errors.meter ["?", "a:80", "Reset"]) = 1 ∧
      e.labels.hasRemote ∧
      e.values (Label.ofAddress (some "a") 80) [] ≠ e.values (Label.ofAddress none 80) [] := by
  intro policies http net xs e
  have proper : (trade policies).Proper xs := by decide +kernel
  obtain ⟨⟨connections, -⟩, received, sent, errors, shared⟩ :=
    accounts_of_connections proper ⟨e, "a:80"⟩
  have on : e.labels.hasRemote := rfl
  have three_five :
      xs.filterMap (Occurrence.bytes? policies Event.received? ⟨e, "a:80"⟩) = [3, 5] := by
    decide +kernel
  have nothing : xs.filterMap (Occurrence.bytes? policies Event.sent? ⟨e, "a:80"⟩) = [] := by
    decide +kernel
  refine ⟨proper, connections.trans ?_, received.trans ?_, sent.trans ?_,
    (errors "Reset").trans ?_, on, ?_⟩
  · decide +kernel
  · refine (congrArg Summary.meter? three_five).trans ?_
    norm_num [Summary.meter?, Summary.ofCounts]
    decide
  · exact congrArg Summary.meter? nothing
  · decide +kernel
  · rw [Ne, shared e (some "a") none 80 80 on on]
    decide +kernel

end Endpoint

end Metering
