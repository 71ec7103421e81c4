import Alerting.Checkpoint.Json
import Alerting.FileContent
import Alerting.Json.Printer
import Alerting.Json.Reader

/-!
# Checkpoint documents

A checkpoint is kept as one compact JSON document and a line feed. Without a document
everything starts cold; a document that cannot be read, is none, or has another version
is an error, so that it is never overwritten by accident.
-/

namespace Alerting

/-- Why a checkpoint cannot be restored. -/
inductive LoadError where
  | cannotRead (path : String)
  | malformed (path : String)
  | unsupportedVersion (path : String) (version : UInt32)
  deriving DecidableEq, Repr

/-- What the operator is told. -/
def LoadError.message : LoadError → String
  | .cannotRead path => "reading checkpoint " ++ path
  | .malformed path => "parsing checkpoint " ++ path
  | .unsupportedVersion path version =>
    "checkpoint " ++ path ++ " has unsupported version " ++ toString version.toNat ++
      " (expected " ++ toString Checkpoint.currentVersion.toNat ++ ")"

namespace Checkpoint

/-- The bytes that a checkpoint is kept as. -/
def document (checkpoint : Checkpoint) : Bytes := checkpoint.toJson.print ++ [0x0a]

/-- The compact JSON text of a checkpoint. -/
def text (checkpoint : Checkpoint) : String := checkpoint.toJson.toText

/-- The checkpoint that a document holds, of whatever version. -/
def ofDocument? (content : Bytes) : Option Checkpoint := (Json.read content).bind ofJson?

/-- The checkpoint at a path, if there is one. -/
def load (path : String) : FileContent → Except LoadError (Option Checkpoint)
  | .absent => .ok none
  | .unreadable => .error (.cannotRead path)
  | .bytes content =>
    match ofDocument? content with
    | none => .error (.malformed path)
    | some checkpoint =>
      if checkpoint.version = currentVersion then .ok (some checkpoint)
      else .error (.unsupportedVersion path checkpoint.version)

end Checkpoint

end Alerting
