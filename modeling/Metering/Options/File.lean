import Metering.Options.Reading
import Metering.Options.Validation
import Metering.Document.Toml

/-!
# Configuration files

A configuration is a text in TOML, whose options have to be valid.
-/

namespace Metering

/-- Why there is no configuration. -/
inductive ConfigError where
  /-- There is no such file, or it holds no text. -/
  | unreadable (path : String)
  /-- The text is no document, or the document no configuration. -/
  | unparsable
  /-- The options break a rule. -/
  | invalid (rule : BrokenRule)
  deriving DecidableEq, Repr

/-- The wording of an error. -/
def ConfigError.message : ConfigError → String
  | unreadable path => "Failed to read config file: " ++ path
  | unparsable => "Failed to parse config.toml"
  | invalid rule => rule.message

namespace Config

/-- The configuration that a text holds, valid or not. -/
def ofToml? (text : String) : Option Config := do
  let node ← Document.Toml.parse? text
  (Config.ofNode .toml node).toOption

/-- The valid configuration that a text holds. -/
def parse (text : String) : Except ConfigError Config := do
  let some config := ofToml? text | throw .unparsable
  match config.options.validate with
  | .ok () => return config
  | .error rule => throw (.invalid rule)

/-- The valid configuration in a file, given its bytes if it exists. -/
def load (path : String) (content : Option (List UInt8)) : Except ConfigError Config := do
  let some bytes := content | throw (.unreadable path)
  let some text := Text.ofUtf8? bytes | throw (.unreadable path)
  parse (String.ofList text)

end Config

end Metering
