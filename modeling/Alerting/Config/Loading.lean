import Alerting.Config.Decoding
import Alerting.Config.Validation
import Alerting.FileContent
import Alerting.Toml.Document

/-!
# Loading a configuration

A configuration file is a TOML document in UTF-8. It is loaded when it can be read,
denotes a configuration, and passes validation.
-/

namespace Alerting

/-- Why a configuration file cannot be used. -/
inductive ConfigLoadError where
  | cannotRead (path : String)
  | malformed (path : String)
  | invalid (error : ConfigError)
  deriving DecidableEq, Repr

namespace ConfigLoadError

/-- What the operator is told. -/
def message : ConfigLoadError → String
  | .cannotRead path => "reading config " ++ path
  | .malformed path => "parsing config " ++ path
  | .invalid error => error.message

/-- The outermost part of the message. -/
def headline : ConfigLoadError → String
  | .invalid error => error.headline
  | error => error.message

end ConfigLoadError

namespace Config

/-- The configuration that a TOML text denotes. -/
def ofToml? (text : String) : Option Config := (Toml.read text).bind (read? .toml)

/-- The configuration that a file holds, checked. -/
def load (path : String) : FileContent → Except ConfigLoadError Config
  | .absent | .unreadable => .error (.cannotRead path)
  | .bytes content =>
    match Bytes.toText? content with
    | none => .error (.cannotRead path)
    | some text =>
      match ofToml? text with
      | none => .error (.malformed path)
      | some config =>
        match config.validate with
        | .error error => .error (.invalid error)
        | .ok () => .ok config

end Config

end Alerting
