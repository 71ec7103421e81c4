import Alerting.Checkpoint.Document
import Alerting.Host
import Alerting.Path

/-!
# Saving checkpoints

A checkpoint is written beside the one that it replaces and then put in its place in one
step. Whatever goes wrong before that step leaves the older checkpoint as it was; what
was written beside it is removed.
-/

namespace Alerting

/-- Why a checkpoint was not saved. -/
inductive SaveError where
  | cannotCreateDirectory (directory : String)
  | cannotWrite (path : String)
  deriving DecidableEq, Repr

/-- What the operator is told. -/
def SaveError.message : SaveError → String
  | .cannotCreateDirectory directory => "creating checkpoint dir " ++ directory
  | .cannotWrite path => "writing checkpoint " ++ path

namespace Checkpoint

/-- Where a checkpoint is written before it replaces the one at a path. -/
def temporaryPath (path : String) (mark : Nat) : String :=
  Path.beside path (".tmp." ++ toString mark)

/-- The actions that put a document in the place of what stands at a path. -/
def replacement (temporary path : String) (document : Bytes) : List FileAction :=
  [.create temporary, .append temporary document, .sync temporary, .rename temporary path]

/-- Saves a checkpoint at a path. The mark keeps temporary files of several programs apart. -/
def save {m : Type → Type} [Monad m] (checkpoint : Checkpoint) (perform : FileAction → m Bool)
    (mark : Nat) (path : String) : m (Except SaveError Unit) := do
  let directory := Path.directory path
  if ← perform (.createDirectories directory) then
    let temporary := temporaryPath path mark
    if ← performAll perform (replacement temporary path checkpoint.document) then
      pure (.ok ())
    else
      let _ ← perform (.remove temporary)
      pure (.error (.cannotWrite path))
  else pure (.error (.cannotCreateDirectory directory))

end Checkpoint

end Alerting
