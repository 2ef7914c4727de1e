import Metering.Options
import Metering.Document.Printer

/-!
# Options as documents

The document for each kind of options, in the order in which their fields are written.
-/

namespace Metering

open Document

/-- The document for an optional text. -/
def Document.Value.ofOption : Option String → Value
  | none => .null
  | some s => .text s

/-- The document for a number of 64 bits. -/
def Document.Value.ofUInt64 (n : UInt64) : Value :=
  .integer n.toNat

/-- The name of the category. -/
def Category.toDocument (c : Category) : Value :=
  .text c.name

def LabelPolicy.toDocument (policy : LabelPolicy) : Value :=
  .members [
    ("remote_for_clients", .bool policy.remoteForClients),
    ("remote_for_servers", .bool policy.remoteForServers)]

/-- The document for an address. -/
def ListenOptions.toDocument (o : ListenOptions) : Value :=
  .members [("host", .text o.host), ("port", .integer o.port.toNat)]

/-- The members of the document for settings of a scraped backend. -/
def ScrapeOptions.members (o : ScrapeOptions) : List (String × Value) :=
  [("embedded_server", (o.server.map ListenOptions.toDocument).getD .null),
   ("endpoint", .text o.endpoint)]

/-- The members of the document for settings of a pushing backend. -/
def PushOptions.members (o : PushOptions) : List (String × Value) :=
  [("uri", .text o.uri),
   ("db", .text o.database),
   ("user_name", .ofOption o.userName),
   ("password", .ofOption o.password),
   ("retention_policy", .ofOption o.retentionPolicy),
   ("step_secs", .ofUInt64 o.step),
   ("connect_timeout_secs", .ofUInt64 o.connectTimeout),
   ("read_timeout_secs", .ofUInt64 o.readTimeout),
   ("batch_size", .ofUInt64 o.batchSize),
   ("compressed", .bool o.compressed)]

/-- The document for a backend: its kind, then its settings. -/
def BackendOptions.toDocument (o : BackendOptions) : Value :=
  .members (("kind", .text o.kind.name) ::
    match o with
    | .prometheus settings => settings.members
    | .influxDb settings => settings.members
    | .disabled => [])

def Options.toDocument (o : Options) : Value :=
  .members [
    ("enabled", .bool o.enabled),
    ("registry_name", .text o.registryName),
    ("disabled_categories", .list (o.disabledCategories.members.map Category.toDocument)),
    ("labels", o.labels.toDocument),
    ("backend", o.backend.toDocument)]

/-- The JSON text of options. -/
def Options.toJson (o : Options) : String :=
  Json.encode o.toDocument

end Metering
