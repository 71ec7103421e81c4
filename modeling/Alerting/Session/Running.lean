import Alerting.Flush.Progress
import Alerting.Session

/-!
# Sessions whose parts run at the same time

A session has a reader of its input, a coordinator that owns the pipeline, a scheduler of
flushes and the workers of the emitters. They hand things over through two bounded queues and
through the buffer of the grouper, which both the scheduler and the coordinator flush. Each
part takes its steps when it can, and nothing else is known about their order.

The steps here are those of a session that goes to the end of its input: no timer of
evaluations or checkpoints fires, no signal arrives, and nobody waits in vain.
-/

namespace Alerting

/-- What the steps of a session depend on besides the session. -/
structure Circumstances where
  /-- When the last cycle runs. -/
  now : Instant
  /-- When the checkpoint is taken. -/
  takenAt : Instant
  /-- Whether the checkpoint can be saved; none if no checkpoint is kept. -/
  saving : Option Bool

/-- What the scheduler of flushes is about. -/
inductive Scheduler where
  | waiting
  | flushing (progress : FlushProgress)
  | ended

/-- What the coordinator is about. -/
inductive Coordinator where
  | receiving
  /-- The input was closed; what is still in the inbox belongs to the last cycle. -/
  | draining
  /-- The last cycle raised alerts, and these are still to be handed to the grouper. -/
  | handing (alerts : List Alert)
  /-- The scheduler was told to end. -/
  | stopping
  | flushing (progress : FlushProgress)
  | saving
  /-- Nobody submits groups any more, and the workers are waited for. -/
  | joining
  | finished
  | failed

namespace Scheduler

/-- The groups that a scheduled flush has still to submit. -/
def remaining : Scheduler → List AlertGroup
  | .flushing progress => progress.remaining
  | .waiting | .ended => []

end Scheduler

namespace Coordinator

/-- The groups that the final flush has still to submit. -/
def remaining : Coordinator → List AlertGroup
  | .flushing progress => progress.remaining
  | _ => []

/-- What the grouper is still to be given of the alerts of the last cycle. -/
def outstanding (raised : List Alert) : Coordinator → List Alert
  | .receiving | .draining => raised
  | .handing alerts => alerts
  | _ => []

/-- The last cycle is over. -/
def hasCycled : Coordinator → Bool
  | .receiving | .draining => false
  | _ => true

/-- The scheduler has ended. -/
def hasStopped : Coordinator → Bool
  | .flushing _ | .saving | .joining | .finished | .failed => true
  | _ => false

/-- The final flush took everything out of the buffer. -/
def hasWithdrawn : Coordinator → Bool
  | .flushing (.submitting _ _) | .saving | .joining | .finished | .failed => true
  | _ => false

/-- Nobody can submit groups any more. -/
def hasClosed : Coordinator → Bool
  | .joining | .finished | .failed => true
  | _ => false

/-- The session is over, for better or worse. -/
def hasReturned : Coordinator → Bool
  | .finished | .failed => true
  | _ => false

end Coordinator

/-- The same pipeline with another grouper. -/
def Pipeline.withGrouper (pipeline : Pipeline) (grouper : Grouper) : Pipeline :=
  { pipeline with grouper }

/-- A session and where its parts stand. -/
structure RunningSession (σ : Type) where
  pipeline : Pipeline
  crew : Crew σ
  /-- The lines that are still to be read; none once the reader is gone. -/
  unread : Option (List Bytes)
  /-- The observations on their way from the reader to the coordinator. -/
  inbox : List Observation := []
  scheduler : Scheduler := .waiting
  coordinator : Coordinator := .receiving
  saved : Option Checkpoint := none

namespace RunningSession

variable {σ : Type}

/-- The number of observations that the inbox has room for. -/
def inboxCapacity : Nat := 4096

/-- A flush as it stands in a session. -/
def flushing (state : RunningSession σ) (progress : FlushProgress) : Flushing σ :=
  ⟨progress, state.pipeline.grouper, state.crew⟩

/-- A session after a flush changed its grouper and its crew. -/
def afterFlush (state : RunningSession σ) (flushing : Flushing σ) : RunningSession σ :=
  { state with
    pipeline := state.pipeline.withGrouper flushing.grouper
    crew := flushing.crew }

/-- One step of one part of a session. -/
inductive Step (sink : Sink σ) (circumstances : Circumstances) (state : RunningSession σ) :
    RunningSession σ → Prop where
  | read {line : Bytes} {rest : List Bytes} {observation : Observation}
      (unread : state.unread = some (line :: rest))
      (meaning : Ingest.readLine line = .observation observation)
      (room : state.inbox.length < inboxCapacity) :
      Step sink circumstances state
        { state with unread := some rest, inbox := state.inbox ++ [observation] }
  | skip {line : Bytes} {rest : List Bytes} (unread : state.unread = some (line :: rest))
      (meaning : Ingest.readLine line = .blank ∨ Ingest.readLine line = .malformed) :
      Step sink circumstances state { state with unread := some rest }
  | breakOff {line : Bytes} {rest : List Bytes} (unread : state.unread = some (line :: rest))
      (meaning : Ingest.readLine line = .notText) :
      Step sink circumstances state { state with unread := none }
  | endReading (unread : state.unread = some []) :
      Step sink circumstances state { state with unread := none }
  | receive {observation : Observation} {rest : List Observation}
      (reading : state.coordinator = .receiving ∨ state.coordinator = .draining)
      (inbox : state.inbox = observation :: rest) :
      Step sink circumstances state
        { state with pipeline := state.pipeline.observe observation, inbox := rest }
  /-- The reader is gone, and nothing is left of what it sent. -/
  | closeInput (receiving : state.coordinator = .receiving) (unread : state.unread = none)
      (inbox : state.inbox = []) :
      Step sink circumstances state { state with coordinator := .draining }
  | evaluate (draining : state.coordinator = .draining) (inbox : state.inbox = []) :
      Step sink circumstances state
        { state with
          pipeline := (state.pipeline.cycle circumstances.now).2.withGrouper state.pipeline.grouper
          coordinator := .handing (state.pipeline.raisedBy circumstances.now) }
  | hand {alert : Alert} {rest : List Alert}
      (handing : state.coordinator = .handing (alert :: rest)) :
      Step sink circumstances state
        { state with
          pipeline := state.pipeline.withGrouper (state.pipeline.grouper.add alert)
          coordinator := .handing rest }
  | cancel (handing : state.coordinator = .handing []) :
      Step sink circumstances state { state with coordinator := .stopping }
  | tick (waiting : state.scheduler = .waiting) (going : state.coordinator ≠ .stopping) :
      Step sink circumstances state { state with scheduler := .flushing .started }
  | flushOnTick {progress : FlushProgress} {next : Flushing σ}
      (running : state.scheduler = .flushing progress)
      (step : Flushing.Step (state.flushing progress) next) :
      Step sink circumstances state
        { state.afterFlush next with scheduler := .flushing next.progress }
  | endTick {submissions : List (AlertGroup × Submission)}
      (running : state.scheduler = .flushing (.submitting [] submissions)) :
      Step sink circumstances state
        { state with
          pipeline :=
            state.pipeline.withGrouper (state.pipeline.grouper.countGroups submissions.length)
          scheduler := .waiting }
  | endSchedule (stopping : state.coordinator = .stopping) (waiting : state.scheduler = .waiting) :
      Step sink circumstances state { state with scheduler := .ended }
  | beginFlush (stopping : state.coordinator = .stopping) (ended : state.scheduler = .ended) :
      Step sink circumstances state { state with coordinator := .flushing .started }
  | flushFinally {progress : FlushProgress} {next : Flushing σ}
      (running : state.coordinator = .flushing progress)
      (step : Flushing.Step (state.flushing progress) next) :
      Step sink circumstances state
        { state.afterFlush next with coordinator := .flushing next.progress }
  | endFlush {submissions : List (AlertGroup × Submission)}
      (running : state.coordinator = .flushing (.submitting [] submissions)) :
      Step sink circumstances state
        { state with
          pipeline :=
            state.pipeline.withGrouper (state.pipeline.grouper.countGroups submissions.length)
          coordinator := .saving }
  | save (saving : state.coordinator = .saving) (saves : circumstances.saving = some true) :
      Step sink circumstances state
        { state with
          saved := some (state.pipeline.checkpoint circumstances.takenAt)
          crew := state.crew.close
          coordinator := .joining }
  | saveNothing (saving : state.coordinator = .saving) (keeps : circumstances.saving = none) :
      Step sink circumstances state
        { state with crew := state.crew.close, coordinator := .joining }
  | failToSave (saving : state.coordinator = .saving) (fails : circumstances.saving = some false) :
      Step sink circumstances state
        { state with crew := state.crew.close, coordinator := .failed }
  /-- Workers go on until the session is over. -/
  | work {crew : Crew σ} (going : state.coordinator.hasReturned = false)
      (step : Crew.Step sink state.crew crew) : Step sink circumstances state { state with crew }
  | join (joining : state.coordinator = .joining) (isOver : state.crew.IsOver) :
      Step sink circumstances state { state with coordinator := .finished }

/-- The states that steps lead to. -/
abbrev Reaches (sink : Sink σ) (circumstances : Circumstances) :
    RunningSession σ → RunningSession σ → Prop :=
  Relation.ReflTransGen (Step sink circumstances)

/-- The groups that a session is about: those that the emitters accepted, those that a flush
has taken out and not yet submitted, and those that are buffered. -/
def groups (state : RunningSession σ) : List AlertGroup :=
  state.crew.accepted ++ state.scheduler.remaining ++ state.coordinator.remaining ++
    state.pipeline.grouper.groups

/-- The observations that are still to be read. -/
def toRead : Option (List Bytes) → List Observation
  | none => []
  | some lines =>
    ((lines.map Ingest.readLine).takeWhile fun meaning => meaning ≠ .notText).filterMap
      Ingest.LineMeaning.observation?

end RunningSession

/-- A session that has its input before it. -/
def Session.running (session : Session) (content : Bytes) : RunningSession Bytes where
  pipeline := session.pipeline
  crew := .ofPool session.emitters session.output
  unread := some (Ingest.lines content)

end Alerting
