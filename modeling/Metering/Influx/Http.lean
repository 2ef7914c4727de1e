import Metering.Influx.Reply
import Metering.Text.Utf8
import Metering.Url.Reading

/-!
# Requests

What a time series database is asked over HTTP, with the user in base 64, and a database that answers
by a script and remembers what it was asked.
-/

namespace Metering

/-! ## Base 64 -/

namespace Text

/-- The digit for a six-bit number. -/
def base64Digit (n : Nat) : Char :=
  if n < 26 then Char.ofNat ('A'.toNat + n)
  else if n < 52 then Char.ofNat ('a'.toNat + (n - 26))
  else if n < 62 then Char.ofNat ('0'.toNat + (n - 52))
  else if n = 62 then '+' else '/'

/-- The digits of the bytes, three bytes to four digits. -/
def base64 : List UInt8 → List Char
  | [] => []
  | [a] =>
    let n := a.toNat * 16
    [base64Digit (n / 64), base64Digit (n % 64), '=', '=']
  | [a, b] =>
    let n := (a.toNat * 256 + b.toNat) * 4
    [base64Digit (n / 4096), base64Digit (n / 64 % 64), base64Digit (n % 64), '=']
  | a :: b :: c :: rest =>
    let n := a.toNat * 65536 + b.toNat * 256 + c.toNat
    base64Digit (n / 262144) :: base64Digit (n / 4096 % 64) :: base64Digit (n / 64 % 64) ::
      base64Digit (n % 64) :: base64 rest

end Text

namespace Influx

/-! ## Requests -/

/-- A request that posts a body to a URL. -/
structure Request where
  url : Url
  contentType : Option String := none
  contentEncoding : Option String := none
  authorization : Option String := none
  /-- The body before it is encoded. -/
  body : String := ""
  deriving DecidableEq, Repr

/-- The header that authorizes a user. -/
def basicAuthorization (userName password : List Char) : String :=
  "Basic " ++ String.ofList (Text.base64 (Text.utf8 (userName ++ ':' :: password)))

/-! ## A scripted database -/

/-- A database that gives its replies in order, and then accepts everything. -/
structure Peer where
  script : List Reply
  /-- The requests so far, the last one first. -/
  log : List Request
  deriving DecidableEq, Repr

namespace Peer

/-- Answers a request. -/
def exchange (request : Request) (p : Peer) : Reply × Peer :=
  match p.script with
  | [] => (.answered 204 [], { p with log := request :: p.log })
  | reply :: script => (reply.delivered, { script, log := request :: p.log })

/-- The requests since the last time, and the peer without them. -/
def takeLog (p : Peer) : List Request × Peer :=
  (p.log.reverse, { p with log := [] })

end Peer

/-- The databases on this machine, by port. -/
structure Network where
  peers : List (Nat × Peer)
  deriving DecidableEq, Repr

namespace Network

/-- The network without databases. -/
def empty : Network := ⟨[]⟩

/-- The database at a port. -/
def peer? (n : Network) (port : Nat) : Option Peer :=
  n.peers.lookup port

/-- The network with a database at a port. -/
def put (n : Network) (port : Nat) (p : Peer) : Network :=
  ⟨(port, p) :: n.peers.filter (·.1 ≠ port)⟩

/-- The host of this machine. -/
def thisHost : Url.Host := .address4 0x7F000001

/-- The port that a URL leads to on this machine, if it does. -/
def portOf? (u : Url) : Option Nat :=
  if u.scheme = "http".toList ∧ u.host = some thisHost then some (u.port.getD 80) else none

/-- Sends a request to the database that its URL leads to. -/
def exchange (request : Request) (n : Network) : Reply × Network :=
  match portOf? request.url with
  | none => (.lost, n)
  | some port =>
    match n.peer? port with
    | none => (.lost, n)
    | some p =>
      let (reply, p) := p.exchange request
      (reply, n.put port p)

end Network

end Influx

end Metering
