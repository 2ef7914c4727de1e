import Metering.Monitor
import Metering.Options.File

/-!
# Command line

Checks a configuration: reads `config.toml`, sets up the backend that it asks for, and says what
would be measured and where it would go.
-/

namespace Metering

/-- What a configuration sets up, line by line, or why it cannot be set up. -/
def Config.overview (config : Config) (clock : Nat) : Except MeteringError (List String) := do
  let site : Site Float := .empty
  let (monitor, _, site) ← Monitor.setup .empty site (.alone true [] clock) config.options
  let backend := ((site.backend? monitor.backend).map site.describe).getD ""
  return [
    "registry: " ++ monitor.registryName,
    "backend: " ++ backend,
    "categories: " ++ ", ".intercalate (monitor.enabledCategories.map Category.name)]

/-- What is said about the bytes of a configuration file, if there are any, while the clock shows
some nanosecond. -/
def report (path : String) (content : Option (List UInt8)) (clock : Nat) :
    Except String (List String) := do
  match Config.load path content with
  | .error e => throw ("Failed to load configuration: " ++ e.message)
  | .ok config =>
    match config.overview clock with
    | .error e => throw ("Failed to set up metrics backend: " ++ e.message)
    | .ok lines => return lines

/-- The bytes of a file, unless it cannot be read. -/
def readBytes (path : String) : IO (Option (List UInt8)) := do
  try
    return some (← IO.FS.readBinFile path).toList
  catch _ =>
    return none

end Metering

def main : IO UInt32 := do
  let path := "config.toml"
  let content ← Metering.readBytes path
  let clock ← IO.monoNanosNow
  match Metering.report path content clock with
  | .ok lines =>
    lines.forM fun line => IO.println line
    return 0
  | .error message =>
    IO.eprintln message
    return 1
