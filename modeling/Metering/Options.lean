import Metering.Category
import Metering.Label.Policy

/-!
# Options

What can be configured: the backend and its settings, the categories that are switched off, and
the label policy.
-/

namespace Metering

/-- The address on which the scrape server listens. -/
structure ListenOptions where
  host : String := "0.0.0.0"
  port : UInt16 := 9090
  deriving DecidableEq, Repr

/-- Settings of the backend that is scraped. -/
structure ScrapeOptions where
  /-- The address of a server of its own, if it has one. -/
  server : Option ListenOptions := none
  /-- The path on which the server answers. -/
  endpoint : String := "/metrics"
  deriving DecidableEq, Repr

/-- Settings of the backend that pushes to a time series database. -/
structure PushOptions where
  uri : String := "http://localhost:8086"
  database : String := "default"
  userName : Option String := none
  password : Option String := none
  retentionPolicy : Option String := none
  /-- Seconds between two pushes. -/
  step : UInt64 := 10
  /-- Seconds to wait for a connection. -/
  connectTimeout : UInt64 := 1
  /-- Seconds to wait for an answer. -/
  readTimeout : UInt64 := 10
  /-- The largest number of lines in a request. -/
  batchSize : UInt64 := 10000
  compressed : Bool := true
  deriving DecidableEq, Repr

inductive BackendKind where
  | prometheus
  | influxDb
  | disabled
  deriving DecidableEq, Repr

namespace BackendKind

/-- The name of the kind in configurations. -/
def name : BackendKind → String
  | prometheus => "prometheus"
  | influxDb => "influxdb"
  | disabled => "disabled"

/-- The kind of this name. Any other name switches the backend off. -/
def ofName (s : String) : BackendKind :=
  if s = "prometheus" then prometheus else if s = "influxdb" then influxDb else disabled

end BackendKind

/-- A backend and its settings. -/
inductive BackendOptions where
  | prometheus (settings : ScrapeOptions)
  | influxDb (settings : PushOptions)
  /-- All measurements are discarded. -/
  | disabled
  deriving DecidableEq, Repr

/-- The kind of the configured backend. -/
def BackendOptions.kind : BackendOptions → BackendKind
  | prometheus _ => .prometheus
  | influxDb _ => .influxDb
  | disabled => .disabled

/-- All options of a monitor. -/
structure Options where
  /-- The main switch. -/
  enabled : Bool := false
  /-- The name of the backend in the directory. -/
  registryName : String := "default"
  /-- The categories that are never built. -/
  disabledCategories : CategorySet := .empty
  labels : LabelPolicy := {}
  backend : BackendOptions := .disabled
  deriving DecidableEq

namespace Options

/-- The backend in use: none if the main switch is off. -/
def effectiveBackend (o : Options) : BackendOptions :=
  if o.enabled then o.backend else .disabled

/-- The options with one more category switched off. -/
def disable (o : Options) (c : Category) : Options :=
  { o with disabledCategories := o.disabledCategories.insert c }

end Options

/-- What a configuration file holds. -/
structure Config where
  logLevel : String := "info"
  options : Options := {}
  deriving DecidableEq

end Metering
