/-!
# Categories

The groups of metrics that can be switched off as a whole, and sets of them. A set lists its
members in the fixed order of all categories, so that equal sets have equal listings.
-/

namespace Metering

/-- A group of metrics. -/
inductive Category where
  | httpServer
  | httpClient
  | netServer
  | netClient
  | datagramSocket
  | eventBus
  | namedPools
  | verticles
  deriving DecidableEq, Repr

namespace Category

/-- All categories in their listing order. -/
def all : List Category :=
  [httpServer, httpClient, netServer, netClient, datagramSocket, eventBus, namedPools, verticles]

/-- The name of the category in configurations. -/
def name : Category → String
  | httpServer => "HTTP_SERVER"
  | httpClient => "HTTP_CLIENT"
  | netServer => "NET_SERVER"
  | netClient => "NET_CLIENT"
  | datagramSocket => "DATAGRAM_SOCKET"
  | eventBus => "EVENT_BUS"
  | namedPools => "NAMED_POOLS"
  | verticles => "VERTICLES"

/-- The capitalised name of the category. -/
def title : Category → String
  | httpServer => "HttpServer"
  | httpClient => "HttpClient"
  | netServer => "NetServer"
  | netClient => "NetClient"
  | datagramSocket => "DatagramSocket"
  | eventBus => "EventBus"
  | namedPools => "NamedPools"
  | verticles => "Verticles"

def ofName? (s : String) : Option Category :=
  all.find? fun c => c.name == s

/-- The place of the category in the listing. -/
def index (c : Category) : Nat :=
  all.idxOf c

/-- The distinct categories of a list, in listing order. -/
def distinct (categories : List Category) : List Category :=
  all.filter fun c => categories.contains c

/-- Categories that are told apart once are left as they are. -/
theorem distinct_distinct (categories : List Category) :
    distinct (distinct categories) = distinct categories := by
  simp only [distinct]
  refine List.filter_congr fun c _ => ?_
  simp only [List.contains_eq_mem, List.mem_filter]
  cases c <;> simp [all]

end Category

/-- A set of categories, given by its listing. -/
structure CategorySet where
  members : List Category
  listed : Category.distinct members = members
  deriving DecidableEq

namespace CategorySet

def ofList (categories : List Category) : CategorySet :=
  ⟨Category.distinct categories, Category.distinct_distinct categories⟩

/-- The set without members. -/
def empty : CategorySet := ofList []

/-- The set with one more member. -/
def insert (set : CategorySet) (c : Category) : CategorySet :=
  ofList (c :: set.members)

/-- Whether a category is a member. -/
def contains (set : CategorySet) (c : Category) : Bool :=
  set.members.contains c

end CategorySet

end Metering
