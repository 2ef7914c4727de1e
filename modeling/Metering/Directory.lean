import Metering.Backend

/-!
# The directory

Backends by name. The first setup of a name builds its backend and later ones find it, whatever
their options; a name that was stopped can be set up anew. Whoever removes a backend closes it.
-/

namespace Metering

/-- The backends that are set up, by name. -/
structure Directory where
  entries : List (String × BackendRef)
  deriving DecidableEq, Repr

namespace Directory

/-- The directory without backends. -/
def empty : Directory := ⟨[]⟩

def get? (d : Directory) (name : String) : Option BackendRef :=
  d.entries.lookup name

/-- The number of names. -/
def size (d : Directory) : Nat :=
  d.entries.length

/-- The names in ascending order. -/
def names (d : Directory) : List String :=
  (d.entries.map Prod.fst).mergeSort fun a b => a ≤ b

/-- The directory without a name. -/
def erase (d : Directory) (name : String) : Directory :=
  ⟨d.entries.filter fun e => e.1 ≠ name⟩

variable {α : Type}

/-- The backend of a name, built if the name has none. -/
def setup (d : Directory) (s : Site α) (around : Surroundings) (name : String)
    (o : BackendOptions) : Except MeteringError (BackendRef × Directory × Site α) :=
  match d.get? name with
  | some b => .ok (b, d, s)
  | none => do
    let (b, s) ← s.build around o
    return (b, ⟨(name, b) :: d.entries⟩, s)

variable [Amount α]

/-- Removes a name and closes its backend. -/
def stop (d : Directory) (s : Site α) (name : String) (timestamp : Int) : Directory × Site α :=
  match d.get? name with
  | some b => (d.erase name, s.close b timestamp)
  | none => (d, s)

/-- Stops names in order. -/
def stopEach (timestamp : Int) : List String → Directory × Site α → Directory × Site α
  | [], state => state
  | name :: names, (d, s) => stopEach timestamp names (d.stop s name timestamp)

/-- Stops all names. -/
def stopAll (d : Directory) (s : Site α) (timestamp : Int) : Directory × Site α :=
  stopEach timestamp d.names (d, s)

/-- Stops all names and waits for the last pushes. A loop that is ended has made its last push, so
that nothing is left to wait for. -/
def shutdownAll (d : Directory) (s : Site α) (timestamp : Int) : Directory × Site α :=
  d.stopAll s timestamp

end Directory

end Metering
