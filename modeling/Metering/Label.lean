import Metering.Text.Quoted
import Metering.Number.Shortest

/-!
# Labels

The names of labels and the texts of their values: addresses, sides of the event bus, and the
tuples of values under which a family keeps its instruments.
-/

namespace Metering

namespace Label

/-- The local end of a connection. -/
def localEnd : String := "local"
/-- The remote end of a connection. -/
def remoteEnd : String := "remote"
/-- The method of a request. -/
def method : String := "method"
/-- The status code of a response. -/
def code : String := "code"
def errorClass : String := "class"
/-- An address of the event bus. -/
def address : String := "address"
/-- The side from which a message of the event bus was sent. -/
def side : String := "side"
/-- The kind of a failed reply. -/
def failure : String := "failure"
def poolType : String := "pool_type"
def poolName : String := "pool_name"
/-- The largest number of resources of a pool. -/
def maxPoolSize : String := "max_pool_size"
/-- The name of a deployment. -/
def name : String := "name"
/-- What stands for an unknown host. -/
def unknown : String := "?"

/-- The text of an address: the host, a colon and the port. -/
def ofAddress (host : Option String) (port : UInt16) : String :=
  host.getD unknown ++ ":" ++ String.ofList (Number.natText port.toNat)

/-- The side of the event bus from which a message was sent. -/
def ofSide (isLocal : Bool) : String :=
  if isLocal then "local" else "remote"

end Label

/-- The values of a family's labels, in order. -/
structure LabelKey where
  values : List String
  deriving DecidableEq, Repr

namespace LabelKey

/-- The first values, at most as many as the limit. -/
def ofValues (values : List String) (limit : Nat) : LabelKey :=
  ⟨values.take limit⟩

/-- The number of values. -/
def size (key : LabelKey) : Nat :=
  key.values.length

/-- The values quoted between square brackets. -/
def text (key : LabelKey) : String :=
  Text.quoteList key.values

end LabelKey

end Metering
