import Metering.Options
import Metering.Text.Basic
import Metering.Text.Quoted
import Metering.Url.Reading

/-!
# Validation of options

What options have to satisfy beyond their shape. The first rule that is broken decides.
-/

namespace Metering

/-- A rule that options break. -/
inductive BrokenRule where
  | registryName
  | endpoint (found : String)
  | serverHost
  | step
  | batchSize
  | database
  | uri (found : String) (cause : Url.Invalid)
  deriving DecidableEq, Repr

/-- The wording of a broken rule. -/
def BrokenRule.message : BrokenRule → String
  | registryName => "registry_name must not be empty"
  | endpoint found => "Prometheus endpoint must start with '/', got " ++ Text.quote found
  | serverHost => "Prometheus embedded_server.host must not be empty"
  | step => "InfluxDB step_secs must be positive"
  | batchSize => "InfluxDB batch_size must be positive"
  | database => "InfluxDB db must not be empty"
  | uri found _ => "Invalid InfluxDB uri: " ++ found

/-- What a broken rule was inferred from, if anything lies deeper. -/
def BrokenRule.cause? : BrokenRule → Option String
  | uri _ cause => some cause.message
  | _ => none

/-- Whether the endpoint is an absolute path. -/
def ScrapeOptions.hasAbsoluteEndpoint (o : ScrapeOptions) : Bool :=
  o.endpoint.toList.head? == some '/'

/-- Whether settings of a scraped backend can be used. -/
def ScrapeOptions.validate (o : ScrapeOptions) : Except BrokenRule Unit := do
  if !o.hasAbsoluteEndpoint then throw (.endpoint o.endpoint)
  if o.server.any (·.host == "") then throw .serverHost

/-- Whether settings of a pushing backend can be used. -/
def PushOptions.validate (o : PushOptions) : Except BrokenRule Unit := do
  if o.step = 0 then throw .step
  if o.batchSize = 0 then throw .batchSize
  if o.database = "" then throw .database
  match Url.parse o.uri.toList with
  | .ok _ => return ()
  | .error cause => throw (.uri o.uri cause)

/-- Whether options can be used. The backend has to be usable even while it is switched off. -/
def Options.validate (o : Options) : Except BrokenRule Unit := do
  if Text.trim o.registryName.toList = [] then throw .registryName
  match o.backend with
  | .prometheus settings => settings.validate
  | .influxDb settings => settings.validate
  | .disabled => return ()

end Metering
