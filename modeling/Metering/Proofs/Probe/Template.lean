import Metering.Proofs.Hub.State
import Metering.Monitor

/-!
# Templates of the categories

All templates that the probes of a category set up, which the label policy lays out but does not
name. No two templates of one scope have the same name, and a name determines category and kind
whatever the scopes and policies are (`Category.eq_of_name`). So collections of such families are
told apart and agree on kinds.
-/

namespace Metering

/-- The templates of one end of connections. -/
def Endpoint.templates (e : Endpoint) : List Template :=
  [e.connections, e.bytesReceived, e.bytesSent, e.errors]

/-- The templates of HTTP servers, apart from those of their connections. -/
def HttpServer.templates (labels : LabelSet) : List Template :=
  [requests labels, requestCount labels, requestResetCount labels, responseTime labels,
    websockets labels]

/-- The templates of HTTP clients, apart from those of their connections. -/
def HttpClient.templates (labels : LabelSet) : List Template :=
  [requests labels, requestCount labels, responseTime labels, responseCount labels,
    websockets labels]

def DatagramSocket.templates : List Template := [bytesReceived, bytesSent, errors]

def EventBus.templates : List Template :=
  [handlers, pending, published, sent, received, delivered, errors, replyFailures, processingTime,
    bytesRead, bytesWritten]

def Pool.templates : List Template := [queueDelay, queueSize, usage, inUse, ratio, completed]

def Deployments.templates : List Template := [instances]

namespace Category

/-- The templates that a category sets up in a scope. -/
def templates (s : Scope) (policy : LabelPolicy) : Category → List Template
  | httpServer => (Endpoint.httpServer s policy none 0).templates ++
      HttpServer.templates (policy.labelSet .server)
  | httpClient => (Endpoint.httpClient s policy none).templates ++
      HttpClient.templates (policy.labelSet .client)
  | netServer => (Endpoint.netServer s policy none 0).templates
  | netClient => (Endpoint.netClient s policy none).templates
  | datagramSocket => DatagramSocket.templates
  | eventBus => EventBus.templates
  | namedPools => Pool.templates
  | verticles => Deployments.templates

/-- The names and kinds of the meters of a category. -/
def meters (c : Category) : List (String × Kind) :=
  (c.templates ⟨0, ⟨0⟩⟩ {}).map fun t => (t.name, t.kind)

/-- Names and kinds depend neither on the scope nor on the label policy. -/
lemma map_templates (s : Scope) (policy : LabelPolicy) (c : Category) :
    (c.templates s policy).map (fun t => (t.name, t.kind)) = c.meters := by
  cases c <;> rfl

/-- The meters of all categories. -/
def allMeters : List (Category × String × Kind) :=
  all.flatMap fun c => c.meters.map fun m => (c, m)

/-- No name stands for two meters. -/
lemma nodup_allMeters : (allMeters.map fun e => e.2.1).Nodup := by
  decide +kernel

/-- No two meters of a category share a name. -/
lemma nodup_meters (c : Category) : (c.meters.map Prod.fst).Nodup := by
  cases c <;> decide +kernel

/-- The list has all categories. -/
lemma mem_all (c : Category) : c ∈ all := by
  cases c <;> decide

variable {c c' : Category} {s s' : Scope} {policy policy' : LabelPolicy} {t t' : Template}

/-- The templates of a category are among all stock meters. -/
lemma mem_allMeters (mem : t ∈ c.templates s policy) : (c, t.name, t.kind) ∈ allMeters := by
  refine List.mem_flatMap.2 ⟨c, c.mem_all, List.mem_map.2 ⟨(t.name, t.kind), ?_, rfl⟩⟩
  rw [← c.map_templates s policy]
  exact List.mem_map_of_mem mem

/-- The name of a template determines its category and its kind. -/
theorem eq_of_name (mem : t ∈ c.templates s policy) (mem' : t' ∈ c'.templates s' policy')
    (name : t.name = t'.name) : c = c' ∧ t.kind = t'.kind := by
  have same := List.inj_on_of_nodup_map nodup_allMeters (mem_allMeters mem) (mem_allMeters mem') name
  rw [Prod.mk.injEq, Prod.mk.injEq] at same
  exact ⟨same.1, same.2.2⟩

/-- Within a scope the name of a template determines the template. -/
theorem template_eq_of_name (mem : t ∈ c.templates s policy) (mem' : t' ∈ c'.templates s policy)
    (name : t.name = t'.name) : t = t' := by
  obtain ⟨rfl, -⟩ := eq_of_name mem mem' name
  have nodup : ((c.templates s policy).map Template.name).Nodup := by
    have names := c.nodup_meters
    rwa [← c.map_templates s policy, List.map_map] at names
  exact List.inj_on_of_nodup_map nodup mem mem' name

end Category

namespace Family

/-- A family of some category in the scope of its own. -/
def OfCategory (c : Category) (policy : LabelPolicy) (f : Family) : Prop :=
  f.template ∈ c.templates f.scope policy

/-- Families that come from categories agree on kinds and keys. -/
lemma concordant_of_category {F : Set Family} (of : ∀ f ∈ F, ∃ c policy, OfCategory c policy f) :
    Concordant F := by
  intro f hf g hg _ name
  obtain ⟨c, policy, mem⟩ := of f hf
  obtain ⟨c', policy', mem'⟩ := of g hg
  exact (Category.eq_of_name mem mem' name).2

/-- The families of all categories over the registry `r`, under the label policy of each scope. -/
def catalogue (r : RegistryRef) (policies : Nat → LabelPolicy) : Set Family :=
  {f | f.scope.registry = r ∧ ∃ c, OfCategory c (policies f.scope.number) f}

variable {r : RegistryRef} {policies : Nat → LabelPolicy}

/-- The families of a catalogue agree on kinds and keys. -/
lemma concordant_catalogue : Concordant (catalogue r policies) :=
  concordant_of_category fun _ ⟨_, c, mem⟩ => ⟨c, _, mem⟩

/-- No two families of a catalogue can meet. -/
lemma apart_catalogue : Apart (catalogue r policies) := by
  rintro ⟨⟨n, r'⟩, t⟩ ⟨registry, c, mem⟩ ⟨⟨n', r''⟩, t'⟩ ⟨registry', c', mem'⟩ number name
  cases registry
  cases registry'
  cases number
  cases Category.template_eq_of_name mem mem' name
  rfl

end Family

end Metering
