import Metering.Family

/-!
# Datagram sockets

Bytes received are told apart by the address on which the socket listens; while it listens on none
they are not recorded. Bytes sent and errors carry no address.
-/

namespace Metering

/-- A datagram socket, and the label of the address on which it listens. -/
structure DatagramSocket where
  scope : Scope
  localEnd : Option String
  deriving DecidableEq, Repr

namespace DatagramSocket

def bytesReceived : Template where
  kind := .summary
  name := "vertx_datagram_bytes_received"
  description := "Total number of datagram bytes received"
  keys := [Label.localEnd]

def bytesSent : Template where
  kind := .summary
  name := "vertx_datagram_bytes_sent"
  description := "Total number of datagram bytes sent"
  keys := []

/-- Errors by class. -/
def errors : Template where
  kind := .counter
  name := "vertx_datagram_errors"
  description := "Total number of datagram errors"
  keys := [Label.errorClass]

/-- A socket that does not listen yet. -/
def new (s : Scope) : DatagramSocket := ⟨s, none⟩

/-- The socket listens on an address from now on. -/
def listening (d : DatagramSocket) (host : Option String) (port : UInt16) : DatagramSocket :=
  { d with localEnd := some (Label.ofAddress host port) }

section Events

variable {α : Type} [Amount α] (socket : DatagramSocket)

/-- Bytes are received. -/
def bytesRead (bytes : UInt64) : List (Touch α) :=
  match socket.localEnd with
  | some localEnd =>
    [socket.scope.touch bytesReceived [localEnd] (.observe (Amount.ofCount bytes))]
  | none => []

/-- Bytes are sent. -/
def bytesWritten (bytes : UInt64) : List (Touch α) :=
  [socket.scope.touch bytesSent [] (.observe (Amount.ofCount bytes))]

/-- An error of some class occurs. -/
def failed (errorClass : String) : List (Touch α) :=
  [socket.scope.touch errors [errorClass] .countOne]

end Events

end DatagramSocket

end Metering
