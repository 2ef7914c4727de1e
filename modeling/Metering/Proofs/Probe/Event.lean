import Metering.Proofs.Hub.Reading
import Metering.Proofs.Probe.Template

/-!
# Events of the probes

What can happen at each probe (`Endpoint.Event` to `Deployments.Event`), with the touches that
follow from it, and what an application reports to the probes of one scope (`Report`). The main fact
is `Report.touches_belong`: whatever is reported, the hub makes touches of families that belong to
the category of the report, or of families that a timing has begun for.
-/

namespace Metering

variable {α : Type}

/-- A touch of a family with one of these templates in the scope, or of the family that a timing has
begun for. -/
def Touch.BelongsTo (s : Scope) (templates : List Template) (sample? : Option Sample)
    (t : Touch α) : Prop :=
  t.family.scope = s ∧ t.family.template ∈ templates ∨ ∃ x ∈ sample?, t.family = x.family

namespace Touch.BelongsTo

variable {s : Scope} {templates : List Template} {sample? : Option Sample}

/-- A touch of a template belongs where the template does. -/
lemma of_mem {template : Template} {values : List String} {change : Change α}
    (mem : template ∈ templates) : (s.touch template values change).BelongsTo s templates sample? :=
  .inl ⟨rfl, mem⟩

/-- The start of a sample belongs where its template does. -/
lemma start {template : Template} {values : List String} (mem : template ∈ templates) :
    ((Sample.of s template values).start : Touch α).BelongsTo s templates sample? :=
  .inl ⟨rfl, mem⟩

/-- The end of a sample belongs to the event that ends it. -/
lemma finish {sample : Sample} {nanos : Nat} (ends : sample ∈ sample?) :
    (sample.finish nanos : Touch α).BelongsTo s templates sample? :=
  .inr ⟨sample, ends, rfl⟩

/-- What belongs to templates belongs to more of them. -/
lemma mono {more : List Template} {t : Touch α} (belongs : t.BelongsTo s templates sample?)
    (sub : templates ⊆ more) : t.BelongsTo s more sample? :=
  belongs.imp_left fun both => ⟨both.1, sub both.2⟩

/-- A touch is one of a set of families if the set has the templates and what the timing is for. -/
lemma family_mem {F : Set Family} {t : Touch α} (belongs : t.BelongsTo s templates sample?)
    (mem : ∀ template ∈ templates, ⟨s, template⟩ ∈ F) (timed : ∀ x ∈ sample?, x.family ∈ F) :
    t.family ∈ F := by
  rcases belongs with ⟨scope, template⟩ | ⟨sample, ends, family⟩
  · obtain ⟨⟨scope', template'⟩, values, change⟩ := t
    cases scope
    exact mem _ template
  · rw [family]
    exact timed sample ends

end Touch.BelongsTo

variable [Amount α]

namespace Endpoint

/-- What happens at one end of connections. A connection is known by the label of its other end. -/
inductive Event where
  | connected (host : Option String) (port : UInt16)
  | disconnected (socket : String)
  | bytesRead (socket : String) (bytes : UInt64)
  | bytesWritten (socket : String) (bytes : UInt64)
  | failed (socket errorClass : String)
  deriving DecidableEq, Repr

/-- The touches that follow from an event. -/
def Event.touches (e : Endpoint) : Event → List (Touch α)
  | connected host port => e.connected (Label.ofAddress host port)
  | disconnected socket => e.disconnected socket
  | bytesRead socket bytes => e.bytesRead socket bytes
  | bytesWritten socket bytes => e.bytesWritten socket bytes
  | failed socket errorClass => e.failed socket errorClass

/-- An event touches families of the endpoint. -/
lemma Event.touches_belong (e : Endpoint) (event : Event) (sample? : Option Sample) :
    ∀ t ∈ (event.touches e : List (Touch α)), t.BelongsTo e.scope e.templates sample? := by
  cases event with
  | connected => exact List.forall_mem_singleton.2 (.of_mem (by simp [templates]))
  | disconnected => exact List.forall_mem_singleton.2 (.of_mem (by simp [templates]))
  | bytesRead => exact List.forall_mem_singleton.2 (.of_mem (by simp [templates]))
  | bytesWritten => exact List.forall_mem_singleton.2 (.of_mem (by simp [templates]))
  | failed => exact List.forall_mem_singleton.2 (.of_mem (by simp [templates]))

/-- No gauge is overridden. -/
lemma Event.settled (e : Endpoint) (event : Event) :
    ∀ t ∈ (event.touches e : List (Touch α)), t.change.isAssign = false := by
  cases event <;> exact List.forall_mem_singleton.2 rfl

end Endpoint

namespace HttpServer

/-- What happens at a server of HTTP connections. -/
inductive Event where
  | connection (event : Endpoint.Event)
  | requestBegun (socket method : String)
  | responsePushed (socket method : String)
  | requestReset (request : ServerRequest)
  | responseEnded (request : ServerRequest) (status : UInt16) (nanos : Nat)
  | websocketOpened (socket : String)
  | websocketClosed (websocket : String)
  deriving DecidableEq, Repr

def Event.touches (server : HttpServer) : Event → List (Touch α)
  | connection event => event.touches server.endpoint
  | requestBegun socket method => (server.requestBegun socket method).2
  | responsePushed socket method => (server.responsePushed socket method).2
  | requestReset request => server.requestReset request
  | responseEnded request status nanos => server.responseEnded request status nanos
  | websocketOpened socket => server.websocketOpened socket
  | websocketClosed websocket => server.websocketClosed websocket

/-- The timing that an event ends. -/
def Event.sample? : Event → Option Sample
  | responseEnded request _ _ => request.sample
  | _ => none

/-- All touches of the server are of its templates, or end the sample of the event. -/
lemma Event.touches_belong (server : HttpServer) (event : Event) :
    ∀ t ∈ (event.touches server : List (Touch α)), t.BelongsTo server.endpoint.scope
      (server.endpoint.templates ++ templates server.endpoint.labels) event.sample? := by
  have of_mem {template : LabelSet → Template} {remoteEnd : String} {extra : List String}
      {change : Change α} (mem : template server.endpoint.labels ∈ templates server.endpoint.labels) :
      (server.touch template remoteEnd extra change).BelongsTo server.endpoint.scope
        (server.endpoint.templates ++ templates server.endpoint.labels) event.sample? :=
    .of_mem (List.mem_append_right _ mem)
  cases event with
  | connection event =>
    intro t mem
    exact (event.touches_belong server.endpoint _ t mem).mono (List.subset_append_left ..)
  | requestBegun =>
    refine List.forall_mem_cons.2 ⟨of_mem (by simp [templates]), List.forall_mem_singleton.2 ?_⟩
    exact .start (List.mem_append_right _ (by simp [templates]))
  | responsePushed => exact List.forall_mem_singleton.2 (of_mem (by simp [templates]))
  | requestReset =>
    exact List.forall_mem_cons.2 ⟨of_mem (by simp [templates]),
      List.forall_mem_singleton.2 (of_mem (by simp [templates]))⟩
  | responseEnded request status nanos =>
    intro t mem
    rcases List.mem_append.1 mem with timed | counted
    · obtain ⟨sample, ends, rfl⟩ : ∃ sample ∈ request.sample, sample.finish nanos = t := by
        simpa using timed
      exact .finish ends
    · exact List.forall_mem_cons.2 ⟨of_mem (by simp [templates]),
        List.forall_mem_singleton.2 (of_mem (by simp [templates]))⟩ t counted
  | websocketOpened => exact List.forall_mem_singleton.2 (of_mem (by simp [templates]))
  | websocketClosed => exact List.forall_mem_singleton.2 (of_mem (by simp [templates]))

/-- No touch of the server assigns. -/
lemma Event.settled (server : HttpServer) (event : Event) :
    ∀ t ∈ (event.touches server : List (Touch α)), t.change.isAssign = false := by
  cases event with
  | connection event => exact event.settled server.endpoint
  | requestBegun => exact List.forall_mem_cons.2 ⟨rfl, List.forall_mem_singleton.2 rfl⟩
  | responsePushed => exact List.forall_mem_singleton.2 rfl
  | requestReset => exact List.forall_mem_cons.2 ⟨rfl, List.forall_mem_singleton.2 rfl⟩
  | responseEnded request =>
    refine List.forall_mem_append.2 ⟨?_, List.forall_mem_cons.2 ⟨rfl,
      List.forall_mem_singleton.2 rfl⟩⟩
    cases request.sample with
    | none => exact List.forall_mem_nil _
    | some => exact List.forall_mem_singleton.2 rfl
  | websocketOpened => exact List.forall_mem_singleton.2 rfl
  | websocketClosed => exact List.forall_mem_singleton.2 rfl

end HttpServer

namespace HttpClient

/-- What happens at a client of HTTP connections. -/
inductive Event where
  | connection (event : Endpoint.Event)
  | requestBegun (socket method : String)
  | requestReset (request : ClientRequest)
  | responseEnded (request : ClientRequest) (status : UInt16) (nanos : Nat)
  | websocketOpened (socket : String)
  | websocketClosed (websocket : String)
  deriving DecidableEq, Repr

def Event.touches (client : HttpClient) : Event → List (Touch α)
  | connection event => event.touches client.endpoint
  | requestBegun socket method => (client.requestBegun socket method).2
  | requestReset request => client.requestReset request
  | responseEnded request status nanos => client.responseEnded request status nanos
  | websocketOpened socket => client.websocketOpened socket
  | websocketClosed websocket => client.websocketClosed websocket

def Event.sample? : Event → Option Sample
  | responseEnded request _ _ => some request.sample
  | _ => none

/-- All touches of the client are of its templates, or end the sample of the event. -/
lemma Event.touches_belong (client : HttpClient) (event : Event) :
    ∀ t ∈ (event.touches client : List (Touch α)), t.BelongsTo client.endpoint.scope
      (client.endpoint.templates ++ templates client.endpoint.labels) event.sample? := by
  have of_mem {template : LabelSet → Template} {remoteEnd : String} {extra : List String}
      {change : Change α} (mem : template client.endpoint.labels ∈ templates client.endpoint.labels) :
      (client.touch template remoteEnd extra change).BelongsTo client.endpoint.scope
        (client.endpoint.templates ++ templates client.endpoint.labels) event.sample? :=
    .of_mem (List.mem_append_right _ mem)
  cases event with
  | connection event =>
    intro t mem
    exact (event.touches_belong client.endpoint _ t mem).mono (List.subset_append_left ..)
  | requestBegun =>
    refine List.forall_mem_cons.2 ⟨of_mem (by simp [templates]), List.forall_mem_cons.2
      ⟨of_mem (by simp [templates]), List.forall_mem_singleton.2 ?_⟩⟩
    exact .start (List.mem_append_right _ (by simp [templates]))
  | requestReset => exact List.forall_mem_singleton.2 (of_mem (by simp [templates]))
  | responseEnded =>
    exact List.forall_mem_cons.2 ⟨of_mem (by simp [templates]), List.forall_mem_cons.2
      ⟨of_mem (by simp [templates]), List.forall_mem_singleton.2 (.finish rfl)⟩⟩
  | websocketOpened => exact List.forall_mem_singleton.2 (of_mem (by simp [templates]))
  | websocketClosed => exact List.forall_mem_singleton.2 (of_mem (by simp [templates]))

/-- No touch of the client assigns. -/
lemma Event.settled (client : HttpClient) (event : Event) :
    ∀ t ∈ (event.touches client : List (Touch α)), t.change.isAssign = false := by
  cases event with
  | connection event => exact event.settled client.endpoint
  | requestBegun =>
    exact List.forall_mem_cons.2 ⟨rfl, List.forall_mem_cons.2 ⟨rfl, List.forall_mem_singleton.2 rfl⟩⟩
  | requestReset => exact List.forall_mem_singleton.2 rfl
  | responseEnded =>
    exact List.forall_mem_cons.2 ⟨rfl, List.forall_mem_cons.2 ⟨rfl, List.forall_mem_singleton.2 rfl⟩⟩
  | websocketOpened => exact List.forall_mem_singleton.2 rfl
  | websocketClosed => exact List.forall_mem_singleton.2 rfl

end HttpClient

namespace DatagramSocket

/-- What happens at a datagram socket that listens where it does. -/
inductive Event where
  | bytesRead (bytes : UInt64)
  | bytesWritten (bytes : UInt64)
  | failed (errorClass : String)
  deriving DecidableEq, Repr

def Event.touches (socket : DatagramSocket) : Event → List (Touch α)
  | bytesRead bytes => socket.bytesRead bytes
  | bytesWritten bytes => socket.bytesWritten bytes
  | failed errorClass => socket.failed errorClass

/-- The socket that listens on an address, if there is one. -/
def at? (s : Scope) : Option (Option String × UInt16) → DatagramSocket
  | none => new s
  | some (host, port) => (new s).listening host port

/-- All touches of a datagram socket are of its templates. -/
lemma Event.touches_belong (s : Scope) (address : Option (Option String × UInt16)) (event : Event)
    (sample? : Option Sample) :
    ∀ t ∈ (event.touches (at? s address) : List (Touch α)), t.BelongsTo s templates sample? := by
  cases event with
  | bytesRead bytes =>
    cases address with
    | none => exact List.forall_mem_nil _
    | some => exact List.forall_mem_singleton.2 (.of_mem (by simp [templates]))
  | bytesWritten bytes =>
    cases address with
    | none => exact List.forall_mem_singleton.2 (.of_mem (by simp [templates]))
    | some => exact List.forall_mem_singleton.2 (.of_mem (by simp [templates]))
  | failed errorClass =>
    cases address with
    | none => exact List.forall_mem_singleton.2 (.of_mem (by simp [templates]))
    | some => exact List.forall_mem_singleton.2 (.of_mem (by simp [templates]))

end DatagramSocket

namespace EventBus

/-- What happens on an event bus. -/
inductive Event where
  | handlerRegistered (address : String)
  | handlerUnregistered (handler : Handler)
  | handlingBegun (handler : Handler) (isLocal : Bool)
  | handlingEnded (handler : Handler) (sample : Sample) (errorClass : Option String) (nanos : Nat)
  | messageSent (address : String) (isPublished isLocal : Bool)
  | messageReceived (address : String) (isLocal : Bool) (count : UInt64)
  | messageWritten (address : String) (bytes : UInt64)
  | messageRead (address : String) (bytes : UInt64)
  | replyFailed (address : String) (failure : ReplyFailure)
  deriving DecidableEq, Repr

def Event.touches (bus : EventBus) : Event → List (Touch α)
  | handlerRegistered address => (bus.handlerRegistered address).2
  | handlerUnregistered handler => bus.handlerUnregistered handler
  | handlingBegun handler isLocal => (bus.handlingBegun handler isLocal).2
  | handlingEnded handler sample errorClass nanos =>
    bus.handlingEnded handler sample errorClass nanos
  | messageSent address isPublished isLocal => bus.messageSent address isPublished isLocal
  | messageReceived address isLocal count => bus.messageReceived address isLocal count
  | messageWritten address bytes => bus.messageWritten address bytes
  | messageRead address bytes => bus.messageRead address bytes
  | replyFailed address failure => bus.replyFailed address failure

def Event.sample? : Event → Option Sample
  | handlingEnded _ sample _ _ => some sample
  | _ => none

/-- All touches of the bus are of its templates, or end the sample of the event. -/
lemma Event.touches_belong (bus : EventBus) (event : Event) :
    ∀ t ∈ (event.touches bus : List (Touch α)),
      t.BelongsTo bus.scope templates event.sample? := by
  cases event with
  | handlerRegistered => exact List.forall_mem_singleton.2 (.of_mem (by simp [templates]))
  | handlerUnregistered => exact List.forall_mem_singleton.2 (.of_mem (by simp [templates]))
  | handlingBegun =>
    exact List.forall_mem_cons.2 ⟨.of_mem (by simp [templates]),
      List.forall_mem_singleton.2 (.start (by simp [templates]))⟩
  | handlingEnded handler sample errorClass nanos =>
    refine List.forall_mem_cons.2 ⟨.finish rfl, ?_⟩
    cases errorClass with
    | none => exact List.forall_mem_nil _
    | some => exact List.forall_mem_singleton.2 (.of_mem (by simp [templates]))
  | messageSent address isPublished isLocal =>
    cases isPublished with
    | true => exact List.forall_mem_singleton.2 (.of_mem (by simp [templates]))
    | false => exact List.forall_mem_singleton.2 (.of_mem (by simp [templates]))
  | messageReceived address isLocal count =>
    refine List.forall_mem_cons.2 ⟨.of_mem (by simp [templates]),
      List.forall_mem_cons.2 ⟨.of_mem (by simp [templates]), ?_⟩⟩
    split
    · exact List.forall_mem_nil _
    · exact List.forall_mem_singleton.2 (.of_mem (by simp [templates]))
  | messageWritten => exact List.forall_mem_singleton.2 (.of_mem (by simp [templates]))
  | messageRead => exact List.forall_mem_singleton.2 (.of_mem (by simp [templates]))
  | replyFailed => exact List.forall_mem_singleton.2 (.of_mem (by simp [templates]))

/-- No touch of the bus assigns. -/
lemma Event.settled (bus : EventBus) (event : Event) :
    ∀ t ∈ (event.touches bus : List (Touch α)), t.change.isAssign = false := by
  cases event with
  | handlingBegun => exact List.forall_mem_cons.2 ⟨rfl, List.forall_mem_singleton.2 rfl⟩
  | handlingEnded handler sample errorClass nanos =>
    refine List.forall_mem_cons.2 ⟨rfl, ?_⟩
    cases errorClass with
    | none => exact List.forall_mem_nil _
    | some => exact List.forall_mem_singleton.2 rfl
  | messageReceived address isLocal count =>
    refine List.forall_mem_cons.2 ⟨rfl, List.forall_mem_cons.2 ⟨rfl, ?_⟩⟩
    split
    · exact List.forall_mem_nil _
    · exact List.forall_mem_singleton.2 rfl
  | handlerRegistered => exact List.forall_mem_singleton.2 rfl
  | handlerUnregistered => exact List.forall_mem_singleton.2 rfl
  | messageSent => exact List.forall_mem_singleton.2 rfl
  | messageWritten => exact List.forall_mem_singleton.2 rfl
  | messageRead => exact List.forall_mem_singleton.2 rfl
  | replyFailed => exact List.forall_mem_singleton.2 rfl

end EventBus

namespace Pool

/-- What happens to a pool. -/
inductive Event where
  | submitted
  | rejected (task : Sample) (nanos : Nat)
  | begun (task : Sample) (nanos : Nat)
  | ended (usage : Sample) (nanos : Nat)
  deriving DecidableEq, Repr

namespace Event

/-- The hub after an event. -/
def perform (pool : Pool) (h : Hub α) : Event → Hub α
  | submitted => (pool.submitted h).2
  | rejected task nanos => pool.rejected task nanos h
  | begun task nanos => (pool.begun task nanos h).2
  | ended usage nanos => pool.ended usage nanos h

def sample? : Event → Option Sample
  | submitted => none
  | rejected task _ => some task
  | begun task _ => some task
  | ended usage _ => some usage

/-- Whether an event changes the number of resources in use. -/
def shifts : Event → Bool
  | begun .. => true
  | ended .. => true
  | _ => false

/-- The touches until the number of resources in use has changed. -/
def before (pool : Pool) : Event → List (Touch α)
  | submitted => [pool.touch queueSize .up, (pool.sample queueDelay).start]
  | rejected task nanos => [pool.touch queueSize .down, task.finish nanos]
  | begun task nanos =>
    [pool.touch queueSize .down, task.finish nanos, pool.touch inUse .up]
  | ended _ _ => [pool.touch inUse .down]

/-- The touches after the ratio has followed. -/
def after (pool : Pool) : Event → List (Touch α)
  | begun _ _ => [(pool.sample usage).start]
  | ended usage nanos => [usage.finish nanos, pool.touch completed .countOne]
  | _ => []

/-- The touches that follow from an event, where some number of resources is in use after it. -/
def touches (pool : Pool) (level : α) (event : Event) : List (Touch α) :=
  event.before pool ++ (if event.shifts then pool.ratioFollows level else []) ++ event.after pool

/-- The number of resources in use that the ratio follows. -/
def level (pool : Pool) (h : Hub α) (event : Event) : α :=
  let h := h.perform (event.before pool)
  h.level (h.get ⟨pool.scope, inUse⟩ pool.values).1

/-- Apart from the ratio no gauge is overridden. -/
lemma settled (pool : Pool) (event : Event) :
    ∀ t ∈ (event.before pool ++ event.after pool : List (Touch α)), t.change.isAssign = false := by
  cases event with
  | submitted => exact List.forall_mem_cons.2 ⟨rfl, List.forall_mem_singleton.2 rfl⟩
  | rejected => exact List.forall_mem_cons.2 ⟨rfl, List.forall_mem_singleton.2 rfl⟩
  | begun =>
    exact List.forall_mem_cons.2 ⟨rfl, List.forall_mem_cons.2 ⟨rfl,
      List.forall_mem_cons.2 ⟨rfl, List.forall_mem_singleton.2 rfl⟩⟩⟩
  | ended =>
    exact List.forall_mem_cons.2 ⟨rfl, List.forall_mem_cons.2 ⟨rfl,
      List.forall_mem_singleton.2 rfl⟩⟩

/-- Reading the number of resources in use right after it has changed changes nothing. -/
lemma shiftInUse_eq (pool : Pool) (change : Change α) (h : Hub α) :
    pool.shiftInUse change h =
      let h := h.touch (pool.touch inUse change)
      h.perform (pool.ratioFollows (h.level (h.get ⟨pool.scope, inUse⟩ pool.values).1)) := by
  have hit : ((h.touch (pool.touch inUse change)).get ⟨pool.scope, inUse⟩ pool.values).2 =
      h.touch (pool.touch inUse change) :=
    congrArg Prod.snd (h.get_touch (pool.touch inUse change))
  unfold shiftInUse
  simp only [hit]

/-- An event makes its touches, with the number of resources in use that it reads in between. -/
theorem perform_eq (pool : Pool) (h : Hub α) (event : Event) :
    event.perform pool h = h.perform (event.touches pool (event.level pool h)) := by
  rw [touches, Hub.perform_append, Hub.perform_append]
  -- where nothing shifts the level that is read in between plays no part
  cases event with
  | submitted => rfl
  | rejected task nanos => rfl
  | begun task nanos =>
    simp only [perform, Pool.begun, shiftInUse_eq]
    rfl
  | ended usage nanos =>
    simp only [perform, Pool.ended, shiftInUse_eq]
    rfl

/-- The ratio of a pool is one of its templates. -/
lemma ratioFollows_belong (pool : Pool) (level : α) (sample? : Option Sample) :
    ∀ t ∈ pool.ratioFollows level, t.BelongsTo pool.scope templates sample? := by
  unfold ratioFollows
  split
  · exact List.forall_mem_nil _
  · exact List.forall_mem_singleton.2 (.of_mem (by simp [templates]))

/-- All touches of a pool are of its templates, or end the sample of the event. -/
lemma touches_belong (pool : Pool) (level : α) (event : Event) :
    ∀ t ∈ event.touches pool level, t.BelongsTo pool.scope templates event.sample? := by
  have ratio := ratioFollows_belong pool level event.sample?
  rw [touches]
  cases event with
  | submitted =>
    refine List.forall_mem_append.2 ⟨List.forall_mem_append.2 ⟨?_, List.forall_mem_nil _⟩,
      List.forall_mem_nil _⟩
    exact List.forall_mem_cons.2 ⟨.of_mem (by simp [templates]),
      List.forall_mem_singleton.2 (.start (by simp [templates]))⟩
  | rejected =>
    refine List.forall_mem_append.2 ⟨List.forall_mem_append.2 ⟨?_, List.forall_mem_nil _⟩,
      List.forall_mem_nil _⟩
    exact List.forall_mem_cons.2 ⟨.of_mem (by simp [templates]),
      List.forall_mem_singleton.2 (.finish rfl)⟩
  | begun =>
    refine List.forall_mem_append.2 ⟨List.forall_mem_append.2 ⟨?_, ratio⟩, ?_⟩
    · exact List.forall_mem_cons.2 ⟨.of_mem (by simp [templates]), List.forall_mem_cons.2
        ⟨.finish rfl, List.forall_mem_singleton.2 (.of_mem (by simp [templates]))⟩⟩
    · exact List.forall_mem_singleton.2 (.start (by simp [templates]))
  | ended =>
    refine List.forall_mem_append.2 ⟨List.forall_mem_append.2 ⟨?_, ratio⟩, ?_⟩
    · exact List.forall_mem_singleton.2 (.of_mem (by simp [templates]))
    · exact List.forall_mem_cons.2 ⟨.finish rfl,
        List.forall_mem_singleton.2 (.of_mem (by simp [templates]))⟩

end Event

end Pool

namespace Deployments

/-- What happens to deployments. -/
inductive Event where
  | deployed (name : String)
  | undeployed (name : String)
  deriving DecidableEq, Repr

def Event.touches (deployments : Deployments) : Event → List (Touch α)
  | deployed name => deployments.deployed name
  | undeployed name => deployments.undeployed name

/-- All touches of deployments are of their templates. -/
lemma Event.touches_belong (deployments : Deployments) (event : Event) (sample? : Option Sample) :
    ∀ t ∈ (event.touches deployments : List (Touch α)),
      t.BelongsTo deployments.scope templates sample? := by
  cases event with
  | deployed => exact List.forall_mem_singleton.2 (.of_mem (by simp [templates]))
  | undeployed => exact List.forall_mem_singleton.2 (.of_mem (by simp [templates]))

end Deployments

/-! ## Reports -/

/-- What an application reports to the probes of one scope. -/
inductive Report where
  | netClient (localAddress : Option String) (event : Endpoint.Event)
  | netServer (host : Option String) (port : UInt16) (event : Endpoint.Event)
  | httpClient (localAddress : Option String) (event : HttpClient.Event)
  | httpServer (host : Option String) (port : UInt16) (event : HttpServer.Event)
  | datagramSocket (address : Option (Option String × UInt16)) (event : DatagramSocket.Event)
  | eventBus (event : EventBus.Event)
  | pool (type name : String) (size : UInt32) (event : Pool.Event)
  | deployments (event : Deployments.Event)
  deriving DecidableEq, Repr

namespace Report

/-- The category that a report belongs to. -/
def category : Report → Category
  | netClient .. => .netClient
  | netServer .. => .netServer
  | httpClient .. => .httpClient
  | httpServer .. => .httpServer
  | datagramSocket .. => .datagramSocket
  | eventBus .. => .eventBus
  | pool .. => .namedPools
  | deployments .. => .verticles

/-- The hub after a report to the probes of a scope. -/
def perform (s : Scope) (policy : LabelPolicy) (h : Hub α) : Report → Hub α
  | netClient localAddress event =>
    h.perform (event.touches (Endpoint.netClient s policy localAddress))
  | netServer host port event => h.perform (event.touches (Endpoint.netServer s policy host port))
  | httpClient localAddress event =>
    h.perform (event.touches (HttpClient.connecting s policy localAddress))
  | httpServer host port event => h.perform (event.touches (HttpServer.listening s policy host port))
  | datagramSocket address event => h.perform (event.touches (DatagramSocket.at? s address))
  | eventBus event => h.perform (event.touches ⟨s⟩)
  | pool type name size event => event.perform ⟨s, type, name, size⟩ h
  | deployments event => h.perform (event.touches ⟨s⟩)

/-- The timing that a report ends. -/
def sample? : Report → Option Sample
  | httpClient _ event => event.sample?
  | httpServer _ _ event => event.sample?
  | eventBus event => event.sample?
  | pool _ _ _ event => event.sample?
  | _ => none

/-- The timing that begins with a report. -/
def begun? (s : Scope) (policy : LabelPolicy) (h : Hub α) : Report → Option Sample
  | httpClient localAddress (.requestBegun socket method) =>
    let begun : ClientRequest × List (Touch α) :=
      (HttpClient.connecting s policy localAddress).requestBegun socket method
    some begun.1.sample
  | httpServer host port (.requestBegun socket method) =>
    let begun : ServerRequest × List (Touch α) :=
      (HttpServer.listening s policy host port).requestBegun socket method
    begun.1.sample
  | eventBus (.handlingBegun handler isLocal) =>
    let begun : Sample × List (Touch α) := EventBus.handlingBegun ⟨s⟩ handler isLocal
    some begun.1
  | pool type name size .submitted => some (Pool.submitted ⟨s, type, name, size⟩ h).1
  | pool type name size (.begun task nanos) =>
    some (Pool.begun ⟨s, type, name, size⟩ task nanos h).1
  | _ => none

/-- What begins is timed by a family of the category. -/
lemma family_of_begun (s : Scope) (policy : LabelPolicy) (h : Hub α) {report : Report} {x : Sample}
    (begun : x ∈ report.begun? s policy h) :
    x.family.scope = s ∧ x.family.template ∈ report.category.templates s policy := by
  cases report with
  | httpClient localAddress event =>
    cases event with
    | requestBegun =>
      cases begun
      have timed : HttpClient.responseTime (policy.labelSet .client) ∈
          HttpClient.templates (policy.labelSet .client) := by simp [HttpClient.templates]
      exact ⟨rfl, List.mem_append_right _ timed⟩
    | _ => cases begun
  | httpServer host port event =>
    cases event with
    | requestBegun =>
      cases begun
      have timed : HttpServer.responseTime (policy.labelSet .server) ∈
          HttpServer.templates (policy.labelSet .server) := by simp [HttpServer.templates]
      exact ⟨rfl, List.mem_append_right _ timed⟩
    | _ => cases begun
  | eventBus event =>
    cases event with
    | handlingBegun =>
      cases begun
      have timed : EventBus.processingTime ∈ EventBus.templates := by simp [EventBus.templates]
      exact ⟨rfl, timed⟩
    | _ => cases begun
  | pool type name size event =>
    cases event with
    | submitted =>
      cases begun
      have timed : Pool.queueDelay ∈ Pool.templates := by simp [Pool.templates]
      exact ⟨rfl, timed⟩
    | begun =>
      cases begun
      have timed : Pool.usage ∈ Pool.templates := by simp [Pool.templates]
      exact ⟨rfl, timed⟩
    | _ => cases begun
  | _ => cases begun

/-- The touches that follow from a report. Only those of a pool depend on the hub, which the number
of resources in use is read from. -/
def touches (s : Scope) (policy : LabelPolicy) (h : Hub α) : Report → List (Touch α)
  | netClient localAddress event => event.touches (Endpoint.netClient s policy localAddress)
  | netServer host port event => event.touches (Endpoint.netServer s policy host port)
  | httpClient localAddress event => event.touches (HttpClient.connecting s policy localAddress)
  | httpServer host port event => event.touches (HttpServer.listening s policy host port)
  | datagramSocket address event => event.touches (DatagramSocket.at? s address)
  | eventBus event => event.touches ⟨s⟩
  | pool type name size event =>
    let pool : Pool := ⟨s, type, name, size⟩
    event.touches pool (event.level pool h)
  | deployments event => event.touches ⟨s⟩

/-- A report makes its touches. -/
lemma perform_eq (s : Scope) (policy : LabelPolicy) (h : Hub α) (report : Report) :
    report.perform s policy h = h.perform (report.touches s policy h) := by
  cases report with
  | pool type name size event => exact event.perform_eq _ h
  | _ => rfl

/-- A report touches families of its category in the scope, or one that a timing has begun for. -/
theorem touches_belong (s : Scope) (policy : LabelPolicy) (h : Hub α) (report : Report) :
    ∀ t ∈ report.touches s policy h,
      t.BelongsTo s (report.category.templates s policy) report.sample? := by
  cases report with
  | netClient localAddress event => exact event.touches_belong _ _
  | netServer host port event => exact event.touches_belong _ _
  | httpClient localAddress event => exact event.touches_belong _
  | httpServer host port event => exact event.touches_belong _
  | datagramSocket address event => exact event.touches_belong s address _
  | eventBus event => exact event.touches_belong _
  | pool type name size event => exact event.touches_belong _ _
  | deployments event => exact event.touches_belong _ _

end Report

end Metering
