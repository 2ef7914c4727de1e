import Metering.Options
import Metering.Document.Record
import Metering.Document.Json

/-!
# Options from documents

Reading options from a document. The settings of a backend depend on its kind, which may stand
anywhere among them, so they are put aside until the whole backend is known.
-/

namespace Metering

open Document

def Category.ofText (name : Except Misreading String) : Except Misreading Category := do
  match Category.ofName? (← name) with
  | some c => return c
  | none => throw .mismatch

/--
A category in JSON: its name, or an object whose only key is the name and whose value is null.
-/
def Category.ofJson : Node → Except Misreading Category
  | .text content _ => Category.ofText content
  | .members [] .closed => .error .malformed
  | .members [] (.strayKey why) => .error why
  | .members [] ending => do ending.check; throw .malformed
  | .members ((key, value) :: rest) ending => do
    let c ← Category.ofText key
    match value with
    | .null =>
      match rest, ending with
      | [], .closed => return c
      | [], .noSeparator .incomplete => throw .incomplete
      | _, _ => throw .malformed
    | value => throw value.unsuited
  | .missing => .error .incomplete
  | _ => .error .malformed

/-- A category in TOML: its name, or a table whose only key is the name and whose value is empty. -/
def Category.ofToml : Node → Except Misreading Category
  | .text content _ => Category.ofText content
  | .members [(key, .members [] _)] _ => Category.ofText key
  | .members [(key, .list [] _)] _ => Category.ofText key
  | n => .error n.unsuited

def Category.ofNode (origin : Origin) : Node → Except Misreading Category :=
  match origin with
  | .toml => Category.ofToml
  | _ => Category.ofJson

/-- A set of categories, given as a list. -/
def CategorySet.ofNode (origin : Origin) (n : Node) : Except Misreading CategorySet :=
  (n.toList (Category.ofNode origin)).map CategorySet.ofList

def LabelPolicy.ofNode (origin : Origin) : Node → Except Misreading LabelPolicy :=
  RecordField.record origin [
    .reading "remote_for_clients" Node.toBool fun b p => { p with remoteForClients := b },
    .reading "remote_for_servers" Node.toBool fun b p => { p with remoteForServers := b }] {}

/-- An address. -/
def ListenOptions.ofNode (origin : Origin) : Node → Except Misreading ListenOptions :=
  RecordField.record origin [
    .reading "host" Node.toText fun s o => { o with host := s },
    .reading "port" Node.toUInt16 fun n o => { o with port := n }] {}

/-- The settings of a scraped backend. -/
def ScrapeOptions.fields (origin : Origin) : List (RecordField ScrapeOptions) := [
  .reading "embedded_server" (Node.toOption (ListenOptions.ofNode origin)) fun s o =>
    { o with server := s },
  .reading "endpoint" Node.toText fun s o => { o with endpoint := s }]

/-- The settings of a pushing backend. -/
def PushOptions.fields : List (RecordField PushOptions) := [
  .reading "uri" Node.toText fun s o => { o with uri := s },
  .reading "db" Node.toText fun s o => { o with database := s },
  .reading "user_name" (Node.toOption Node.toText) fun s o => { o with userName := s },
  .reading "password" (Node.toOption Node.toText) fun s o => { o with password := s },
  .reading "retention_policy" (Node.toOption Node.toText) fun s o =>
    { o with retentionPolicy := s },
  .reading "step_secs" Node.toUInt64 fun n o => { o with step := n },
  .reading "connect_timeout_secs" Node.toUInt64 fun n o => { o with connectTimeout := n },
  .reading "read_timeout_secs" Node.toUInt64 fun n o => { o with readTimeout := n },
  .reading "batch_size" Node.toUInt64 fun n o => { o with batchSize := n },
  .reading "compressed" Node.toBool fun b o => { o with compressed := b }]

/-- The settings of a scraped backend on their own. -/
def ScrapeOptions.ofNode (origin : Origin) : Node → Except Misreading ScrapeOptions :=
  RecordField.record origin (ScrapeOptions.fields origin) {}

/-- The settings of a pushing backend on their own. -/
def PushOptions.ofNode (origin : Origin) : Node → Except Misreading PushOptions :=
  RecordField.record origin PushOptions.fields {}

namespace BackendOptions

def kindOf (n : Node) : Except Misreading BackendKind :=
  n.toText.map BackendKind.ofName

/--
A backend of a known kind from its settings, which have been put aside. No settings are of use to
a disabled one.
-/
def ofSettings (kind : BackendKind) (settings : Node) : Except Misreading BackendOptions :=
  match kind with
  | .prometheus => (ScrapeOptions.ofNode .held settings).map prometheus
  | .influxDb => (PushOptions.ofNode .held settings).map influxDb
  | .disabled =>
    match settings with
    | .list (_ :: _) _ => .error .mismatch
    | _ => .ok disabled

/--
Takes the kind out of the entries of a backend and checks the others, which may nest `levels`
deep. The result is the kind, if it has been met, and the other entries.
-/
def splitKind (levels : Nat) :
    Option BackendKind → List (Except Misreading String × Node) →
      Except Misreading (Option BackendKind × List (Except Misreading String × Node))
  | kind, [] => return (kind, [])
  | kind, (key, value) :: rest => do
    if (← key) = "kind" then
      if kind.isSome then throw .mismatch
      splitKind levels (some (← kindOf value)) rest
    else
      value.hold levels
      let (kind, others) ← splitKind levels kind rest
      return (kind, (key, value) :: others)

/--
A backend, in which brackets may nest `levels` deep. It is an object that holds its kind, or a
list that begins with its kind.
-/
def ofNode (levels : Nat) : Node → Except Misreading BackendOptions
  | .members entries ending => do
    let (kind, settings) ← splitKind levels none entries
    ending.check
    match kind with
    | some kind => ofSettings kind (.members settings .closed)
    | none => throw .mismatch
  | .list [] ending => do ending.check; throw .mismatch
  | .list (first :: settings) ending => do
    let kind ← kindOf first
    Node.holdItems levels settings
    ending.check
    ofSettings kind (.list settings .closed)
  | n => .error n.unsuited

end BackendOptions

namespace Options

/-- The number of brackets that may be open at a time. -/
def maxLevels : Nat := 127

/-- The fields of options. Two brackets are open inside a backend that is one of them. -/
def fields (origin : Origin) : List (RecordField Options) := [
  .reading "enabled" Node.toBool fun b o => { o with enabled := b },
  .reading "registry_name" Node.toText fun s o => { o with registryName := s },
  .reading "disabled_categories" (CategorySet.ofNode origin) fun s o =>
    { o with disabledCategories := s },
  .reading "labels" (LabelPolicy.ofNode origin) fun p o => { o with labels := p },
  .reading "backend" (BackendOptions.ofNode (maxLevels - 2)) fun b o => { o with backend := b }]

def ofNode (origin : Origin) : Node → Except Misreading Options :=
  RecordField.record origin (fields origin) {}

def ofJson (text : String) : Except Misreading Options :=
  Json.decode (ofNode .json) text

end Options

def LabelPolicy.ofJson (text : String) : Except Misreading LabelPolicy :=
  Json.decode (LabelPolicy.ofNode .json) text

/-- Settings of a scraped backend from a text in JSON. -/
def ScrapeOptions.ofJson (text : String) : Except Misreading ScrapeOptions :=
  Json.decode (ScrapeOptions.ofNode .json) text

/-- Settings of a pushing backend from a text in JSON. -/
def PushOptions.ofJson (text : String) : Except Misreading PushOptions :=
  Json.decode (PushOptions.ofNode .json) text

/-- A backend from a text in JSON, in which its own bracket is open. -/
def BackendOptions.ofJson (text : String) : Except Misreading BackendOptions :=
  Json.decode (BackendOptions.ofNode (Options.maxLevels - 1)) text

namespace Config

/-- A configuration is being read: the log level, and the options once they have been met. -/
structure Draft where
  logLevel : String := "info"
  options : Option Options := none

def logLevelOf (origin : Origin) : Node → Except Misreading String :=
  RecordField.record origin [.reading "log_level" Node.toText fun s _ => s] ({} : Draft).logLevel

/-- The parts of a configuration. -/
def fields (origin : Origin) : List (RecordField Draft) := [
  .reading "logging" (logLevelOf origin) fun s d => { d with logLevel := s },
  .reading "metrics" (Options.ofNode origin) fun o d => { d with options := some o }]

/-- A configuration from a node. It has to hold options. -/
def ofNode (origin : Origin) (n : Node) : Except Misreading Config := do
  let draft ← RecordField.record origin (fields origin) {} n
  match draft.options with
  | some options => return ⟨draft.logLevel, options⟩
  | none => throw .mismatch

end Config

end Metering
