import Metering.Instrument

/-!
# Errors

What can go wrong while backends are built, meters are registered and values are exported, and the
wording of each.
-/

namespace Metering

/-- A failure of the library. -/
inductive MeteringError where
  /-- The scrape server could not bind its address. -/
  | bind (address cause : String)
  /-- A backend with background work needs a running executor. -/
  | noExecutor (backend : String)
  /-- A configured address or path cannot be used. -/
  | invalidUri (uri reason : String)
  /-- A meter of this identity exists with another kind. -/
  | duplicateMeter (id : String) (existing requested : Kind)
  /-- The exposition could not be written. -/
  | exposition (cause : String)
  /-- A batch could not be compressed. -/
  | compression (cause : String)
  /-- The database could not be reached. -/
  | transport (cause : String)
  /-- The database refused a batch. -/
  | refused (status : UInt16) (body : String)
  /-- A part from elsewhere gave up. This is no error that is returned: it ends the call, and what
  the call has begun is dropped. -/
  | panic (cause : String)
  deriving DecidableEq, Repr

namespace MeteringError

/-- The wording of an error. -/
def message : MeteringError → String
  | bind address cause => "failed to bind embedded metrics server on " ++ address ++ ": " ++ cause
  | noExecutor backend => "backend `" ++ backend ++ "` requires a running tokio runtime"
  | invalidUri uri reason => "invalid URI `" ++ uri ++ "`: " ++ reason
  | duplicateMeter id existing requested =>
    "meter `" ++ id ++ "` is already registered as a " ++ existing.name ++ ", not a " ++
      requested.name
  | exposition cause => "prometheus: " ++ cause
  | compression cause => "failed to compress InfluxDB batch: " ++ cause
  | transport cause => "http: " ++ cause
  | refused status body =>
    "InfluxDB write rejected with status " ++ toString status.toNat ++ ": " ++ body
  | panic cause => cause

/-- The underlying failure, if the error wraps one. -/
def cause? : MeteringError → Option String
  | bind _ cause => some cause
  | exposition cause => some cause
  | compression cause => some cause
  | transport cause => some cause
  | _ => none

/-- The wording of a failure of the exposition with a given explanation. -/
def explained (explanation : String) : String :=
  "Error: " ++ explanation

/-- The wording of a second registration of one exposition. -/
def alreadyExposed : String := "Duplicate metrics collector registration attempted"

end MeteringError

end Metering
