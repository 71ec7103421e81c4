import Alerting.Checkpoint.Saving
import Alerting.Session

/-!
# Running a session

The whole way of a session on a host, from the stored checkpoint to the new one.
-/

namespace Alerting

/-- Why a session failed. -/
inductive SessionFailure where
  | start (error : StartError)
  | save (error : SaveError)
  deriving DecidableEq, Repr

/-- What a session left behind. -/
structure SessionOutcome where
  failure : Option SessionFailure
  output : Bytes
  events : List SessionEvent
  deriving DecidableEq

namespace Session

variable {m : Type → Type} [Monad m]

/--
Keeps a checkpoint, if there is a path for it, and waits for the emitters. They write
`early` groups before it is known whether the checkpoint was saved; a session that
could not save it ends without waiting for the others.
-/
def conclude (host : Host m) (path : Option String) (early : Nat) (session : Session) :
    m (Except SaveError Unit × Session) := do
  let ahead := session.emit early
  match path with
  | none => pure (.ok (), ahead.drain)
  | some path =>
    let checkpoint := session.pipeline.checkpoint (← host.now)
    match ← checkpoint.save host.perform (← host.mark) path with
    | .error error => pure (.error error, ahead)
    | .ok () => pure (.ok (), (ahead.log (.checkpointWritten checkpoint.entityCount)).drain)

/-- The path of the checkpoint with what stands there. -/
def storedCheckpoint (host : Host m) : Option String → m (Option (String × FileContent))
  | none => pure none
  | some path => do pure (some (path, ← host.read path))

/-- Runs a session. The emitters keep up with the flush. -/
def run (host : Host m) (config : Config) (source : InputSource) (checkpoint : Option String) :
    m SessionOutcome := do
  let stored ← storedCheckpoint host checkpoint
  match start config stored (← host.timerClock) with
  | .error error => pure ⟨some (.start error), [], []⟩
  | .ok session =>
    let session := session.feed (← host.input source)
    let session := (session.cycle (← host.now)).flush
    let (saved, session) ← session.conclude host checkpoint session.emitters.queue.length
    let failure := match saved with
      | .error error => some (.save error)
      | .ok () => none
    pure ⟨failure, session.output, session.events⟩

end Session

end Alerting
