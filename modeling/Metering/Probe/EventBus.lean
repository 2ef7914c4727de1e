import Metering.Hub
import Metering.Label.TypeName

/-!
# The event bus

A message is sent or published to an address; each handler that it reaches makes one message
pending, and a handler that begins takes one away. The time that a handler works is recorded for
its address, and an error is counted where it ends with one.
-/

namespace Metering

structure EventBus where
  scope : Scope
  deriving DecidableEq, Repr

/-- A handler that is registered for an address. -/
structure Handler where
  address : String
  deriving DecidableEq, Repr

/-- Why a reply failed. -/
inductive ReplyFailure where
  | timeout
  | noHandlers
  | recipientFailure
  | error
  deriving DecidableEq, Repr

def ReplyFailure.label : ReplyFailure → String
  | timeout => "TIMEOUT"
  | noHandlers => "NO_HANDLERS"
  | recipientFailure => "RECIPIENT_FAILURE"
  | error => "ERROR"

namespace EventBus

/-- Registered handlers. -/
def handlers : Template where
  kind := .gauge
  name := "vertx_eventbus_handlers"
  description := "Number of event bus handlers in use"
  keys := [Label.address]

/-- Messages that wait for a handler. -/
def pending : Template where
  kind := .gauge
  name := "vertx_eventbus_pending"
  description := "Number of messages not processed yet"
  keys := [Label.address, Label.side]

/-- Messages published to all handlers. -/
def published : Template where
  kind := .counter
  name := "vertx_eventbus_published"
  description := "Number of messages published (publish / subscribe)"
  keys := [Label.address, Label.side]

/-- Messages sent to one handler. -/
def sent : Template where
  kind := .counter
  name := "vertx_eventbus_sent"
  description := "Number of messages sent (point-to-point)"
  keys := [Label.address, Label.side]

/-- Messages received. -/
def received : Template where
  kind := .counter
  name := "vertx_eventbus_received"
  description := "Number of messages received"
  keys := [Label.address, Label.side]

/-- Messages received that had a handler. -/
def delivered : Template where
  kind := .counter
  name := "vertx_eventbus_delivered"
  description := "Number of messages delivered to handlers"
  keys := [Label.address, Label.side]

/-- Errors of handlers by class. -/
def errors : Template where
  kind := .counter
  name := "vertx_eventbus_errors"
  description := "Number of errors"
  keys := [Label.address, Label.errorClass]

/-- Failed replies. -/
def replyFailures : Template where
  kind := .counter
  name := "vertx_eventbus_reply_failures"
  description := "Number of message reply failures"
  keys := [Label.address, Label.failure]

/-- The time that handlers work. -/
def processingTime : Template where
  kind := .timer
  name := "vertx_eventbus_processing_time"
  description := "Processing time"
  keys := [Label.address]

/-- Bytes read from peers in the cluster. -/
def bytesRead : Template where
  kind := .summary
  name := "vertx_eventbus_bytes_read"
  description := "Number of bytes received while reading messages from event bus cluster peers"
  keys := [Label.address]

/-- Bytes written to peers in the cluster. -/
def bytesWritten : Template where
  kind := .summary
  name := "vertx_eventbus_bytes_written"
  description := "Number of bytes sent while sending messages to event bus cluster peers"
  keys := [Label.address]

section Events

variable {α : Type} [Amount α] (bus : EventBus)

def handlerRegistered (address : String) : Handler × List (Touch α) :=
  (⟨address⟩, [bus.scope.touch handlers [address] .up])

def handlerUnregistered (handler : Handler) : List (Touch α) :=
  [bus.scope.touch handlers [handler.address] .down]

/-- A handler begins with a message that was sent from this side or the other. -/
def handlingBegun (handler : Handler) (isLocal : Bool) : Sample × List (Touch α) :=
  let sample := Sample.of bus.scope processingTime [handler.address]
  (sample,
    [bus.scope.touch pending [handler.address, Label.ofSide isLocal] .down, sample.start])

/-- A handler ends after some time, possibly with an error of some class. -/
def handlingEnded (handler : Handler) (sample : Sample) (errorClass : Option String)
    (nanos : Nat) : List (Touch α) :=
  sample.finish nanos ::
    (errorClass.map fun c => bus.scope.touch errors [handler.address, c] .countOne).toList

/-- A message is published or sent to an address. -/
def messageSent (address : String) (isPublished isLocal : Bool) : List (Touch α) :=
  [bus.scope.touch (if isPublished then published else sent)
    [address, Label.ofSide isLocal] .countOne]

/-- A message arrives at an address with some number of handlers. -/
def messageReceived (address : String) (isLocal : Bool) (count : UInt64) : List (Touch α) :=
  let values := [address, Label.ofSide isLocal]
  bus.scope.touch pending values (.shift (Amount.ofCount count)) ::
    bus.scope.touch received values .countOne ::
    (if count = 0 then [] else [bus.scope.touch delivered values .countOne])

/-- Bytes of a message are written to a peer. -/
def messageWritten (address : String) (bytes : UInt64) : List (Touch α) :=
  [bus.scope.touch bytesWritten [address] (.observe (Amount.ofCount bytes))]

/-- Bytes of a message are read from a peer. -/
def messageRead (address : String) (bytes : UInt64) : List (Touch α) :=
  [bus.scope.touch bytesRead [address] (.observe (Amount.ofCount bytes))]

/-- The reply to a message fails. -/
def replyFailed (address : String) (failure : ReplyFailure) : List (Touch α) :=
  [bus.scope.touch replyFailures [address, failure.label] .countOne]

variable {β ε : Type}

/--
Lets a handler work on a message, from its beginning to its end some time later. A failure of the
work is counted under the class that it is given; the result is that of the work in any case.
-/
def measureWith (handler : Handler) (isLocal : Bool) (work : Hub α → Except ε β × Hub α)
    (classify : ε → String) (nanos : Nat) (h : Hub α) : Except ε β × Hub α :=
  let (sample, begun) := bus.handlingBegun handler isLocal
  let (result, h) := work (h.perform begun)
  match result with
  | .ok _ => (result, h.perform (bus.handlingEnded handler sample none nanos))
  | .error e => (result, h.perform (bus.handlingEnded handler sample (some (classify e)) nanos))

/-- Lets a handler work on a message, all failures being of the class of their type. -/
def measure (handler : Handler) (isLocal : Bool) (work : Hub α → Except ε β × Hub α)
    (typeName : String) (nanos : Nat) (h : Hub α) : Except ε β × Hub α :=
  bus.measureWith handler isLocal work (fun _ => errorClass typeName) nanos h

end Events

end EventBus

end Metering
