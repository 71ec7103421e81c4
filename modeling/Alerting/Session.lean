import Alerting.Checkpoint.Document
import Alerting.Emitter
import Alerting.Ingest
import Alerting.JsonLines
import Alerting.Session.Event

/-!
# Sessions

A session runs a pipeline to the end of its input: it restores the checkpoint, hands all
observations to the pipeline, runs one last cycle, flushes what was raised into the
queue of the emitters, and keeps a checkpoint of its own. The emitters write the groups
as lines while the rest goes on.
-/

namespace Alerting

/-- What a session cannot be set up with, although its configuration can be built. -/
inductive SetupFault where
  /-- No pool of emitters has a queue of this capacity and that many workers. -/
  | emitterPool
  | zeroPeriod
  /-- The timer would fire later than its clock can show. -/
  | periodTooLong
  deriving DecidableEq, Repr

/-- Why a session does not start. -/
inductive StartError where
  | config (error : ConfigError)
  | checkpoint (error : LoadError)
  | setup (fault : SetupFault)
  deriving DecidableEq, Repr

/-- The greatest number of seconds that the clock of timers can show. -/
def timerLimit : Nat := UInt64.size / 2 - 1

/-- Checks that a timer with a period can be set when its clock shows a number of seconds. -/
def checkTimer (clock : Nat) (period : Seconds) : Except SetupFault Unit :=
  if timerLimit < clock + period.toNat then .error .periodTooLong
  else if period = 0 then .error .zeroPeriod
  else .ok ()

/-- A session on its way. -/
structure Session where
  pipeline : Pipeline
  emitters : EmitterPool
  /-- The lines that the emitters wrote. -/
  output : Bytes := []
  /-- What happened, in order. -/
  events : List SessionEvent := []

namespace Session

def log (session : Session) (event : SessionEvent) : Session :=
  { session with events := session.events ++ [event] }

/-- A session of a configuration that nothing was restored into. -/
def ofConfig (config : Config) : Except StartError Session :=
  match EmitterPool.create? config.workers.toNat config.queueCapacity.toNat with
  | none => .error (.setup .emitterPool)
  | some emitters => do
    let pipeline ← (Pipeline.ofConfig config).mapError .config
    .ok { pipeline, emitters }

/-- Puts the entities of a checkpoint into the pipeline. -/
def restore (session : Session) (checkpoint : Checkpoint) : Session :=
  let ignored := (session.pipeline.ignored checkpoint).map fun alert =>
    SessionEvent.ignored alert.1 alert.2
  let restored :=
    SessionEvent.restored checkpoint.takenAt (session.pipeline.restoredCount checkpoint)
  { session with
    pipeline := session.pipeline.restore checkpoint
    events := session.events ++ ignored ++ [restored] }

/-- Restores what stands at the path of the checkpoint. -/
def resume (session : Session) (path : String) (content : FileContent) :
    Except LoadError Session := do
  match ← Checkpoint.load path content with
  | none => .ok (session.log .coldStart)
  | some checkpoint => .ok (session.restore checkpoint)

/-- Checks the timers of evaluations and, if checkpoints are kept, of those. -/
def checkTimers (config : Config) (keepsCheckpoints : Bool) (clock : Nat) :
    Except SetupFault Unit := do
  checkTimer clock config.evaluationInterval
  match config.checkpointInterval with
  | some interval => if keepsCheckpoints then checkTimer clock interval
  | none => .ok ()

/-- Starts a session. The checkpoint, if one is kept, is given by its path and what stands there. -/
def start (config : Config) (checkpoint : Option (String × FileContent)) (clock : Nat) :
    Except StartError Session := do
  let session ← ofConfig config
  let session ← match checkpoint with
    | none => .ok session
    | some (path, content) => (session.resume path content).mapError .checkpoint
  (checkTimers config checkpoint.isSome clock).mapError .setup
  .ok session

/-- Hands the observations of an input to the pipeline. -/
def feed (session : Session) (input : FileContent) : Session :=
  match input with
  | .absent | .unreadable => session.log .inputFailed
  | .bytes content =>
    let reading := Ingest.read content
    let session :=
      { session with pipeline := reading.observations.foldl Pipeline.observe session.pipeline }
    match reading.result with
    | .ok skipped => session.log (.inputFinished skipped)
    | .error _ => session.log .inputFailed

/-- Runs the last cycle. -/
def cycle (session : Session) (now : Instant) : Session :=
  let (summary, pipeline) := session.pipeline.cycle now
  { session with pipeline }.log (.finalCycle summary.raised pipeline.dropped)

/-- Flushes what is buffered into the queue of the emitters. -/
def flush (session : Session) : Session :=
  let (outcome, pipeline, emitters) := session.pipeline.flush EmitterPool.submit session.emitters
  { session with pipeline, emitters }.log
    (.finalFlush outcome.report pipeline.grouper.submitFailures pipeline.grouper.stranded)

/-- The emitters write up to `count` groups. -/
def emit (session : Session) (count : Nat) : Session :=
  let (emitters, output) := session.emitters.work (jsonLines Writer.append) count session.output
  { session with emitters, output }

/-- The emitters write all groups that they accepted. -/
def drain (session : Session) : Session :=
  let session := session.emit session.emitters.queue.length
  session.log (.drained session.emitters.emitted)

end Session

end Alerting
