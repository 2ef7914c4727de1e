import Metering.Label

/-!
# Label policy

Servers may see an unbounded set of peers, clients usually a small one. The policy decides for
each direction whether the families of a category carry the remote end of a connection as a label.
-/

namespace Metering

/-- The side of a connection that a category measures. -/
inductive Direction where
  | client
  | server
  deriving DecidableEq, Repr

/-- Whether the remote end is a label, for each direction. -/
structure LabelPolicy where
  remoteForClients : Bool := true
  remoteForServers : Bool := false
  deriving DecidableEq, Repr

/--
The layout of labels that all families of a category share: the local end, the remote end if it is
a label, then what the family adds.
-/
structure LabelSet where
  hasRemote : Bool
  deriving DecidableEq, Repr

/-- The layout for one direction. -/
def LabelPolicy.labelSet (policy : LabelPolicy) : Direction → LabelSet
  | .client => ⟨policy.remoteForClients⟩
  | .server => ⟨policy.remoteForServers⟩

namespace LabelSet

/-- The names of the labels of a family. -/
def keys (labels : LabelSet) (extra : List String) : List String :=
  Label.localEnd :: (if labels.hasRemote then Label.remoteEnd :: extra else extra)

/-- The values of the labels, laid out as the names are. -/
def values (labels : LabelSet) (localEnd remoteEnd : String) (extra : List String) : List String :=
  localEnd :: (if labels.hasRemote then remoteEnd :: extra else extra)

end LabelSet

end Metering
