import Alerting.Session.Running

/-!
# How sessions end

Whatever brought a session to its end, its coordinator flushes what is buffered, keeps a
checkpoint, and lets go of the queue of the emitters to wait for them. A checkpoint that cannot be
saved ends the session at once.

The scheduler need not have ended by then, unlike in a session where nobody waits in vain. A
scheduled flush that did not end in the time that it was given goes on beside all this, and as it
submits groups too, the queue stays open until it is through.

The emitters are waited for as long as it takes. When the session is over, they do nothing more.
-/

namespace Alerting

/-- A session whose last cycle is over and whose scheduler was told to end. -/
structure EndingSession (σ : Type) where
  pipeline : Pipeline
  crew : Crew σ
  scheduler : Scheduler
  coordinator : Coordinator := .flushing .started
  saved : Option Checkpoint := none

namespace EndingSession

variable {σ : Type}

/-- A flush as it stands in a session. -/
def flushing (state : EndingSession σ) (progress : FlushProgress) : Flushing σ :=
  ⟨progress, state.pipeline.grouper, state.crew⟩

/-- A session after a flush changed its grouper and its crew. -/
def afterFlush (state : EndingSession σ) (flushing : Flushing σ) : EndingSession σ :=
  { state with
    pipeline := state.pipeline.withGrouper flushing.grouper
    crew := flushing.crew }

/-- A session after a flush counted its groups. -/
def countGroups (state : EndingSession σ) (submissions : List (AlertGroup × Submission)) :
    EndingSession σ :=
  { state with
    pipeline :=
      state.pipeline.withGrouper (state.pipeline.grouper.countGroups submissions.length) }

/-- One step of one part of a session. -/
inductive Step (sink : Sink σ) (circumstances : Circumstances) (state : EndingSession σ) :
    EndingSession σ → Prop where
  | flushOnTick {progress : FlushProgress} {next : Flushing σ}
      (running : state.scheduler = .flushing progress)
      (step : Flushing.Step (state.flushing progress) next) :
      Step sink circumstances state
        { state.afterFlush next with scheduler := .flushing next.progress }
  | endTick {submissions : List (AlertGroup × Submission)}
      (running : state.scheduler = .flushing (.submitting [] submissions)) :
      Step sink circumstances state
        { state.countGroups submissions with scheduler := .ended }
  | endSchedule (waiting : state.scheduler = .waiting) :
      Step sink circumstances state { state with scheduler := .ended }
  | flushFinally {progress : FlushProgress} {next : Flushing σ}
      (running : state.coordinator = .flushing progress)
      (step : Flushing.Step (state.flushing progress) next) :
      Step sink circumstances state
        { state.afterFlush next with coordinator := .flushing next.progress }
  | endFlush {submissions : List (AlertGroup × Submission)}
      (running : state.coordinator = .flushing (.submitting [] submissions)) :
      Step sink circumstances state
        { state.countGroups submissions with coordinator := .saving }
  | save (saving : state.coordinator = .saving) (saves : circumstances.saving = some true) :
      Step sink circumstances state
        { state with
          saved := some (state.pipeline.checkpoint circumstances.takenAt)
          coordinator := .joining }
  | saveNothing (saving : state.coordinator = .saving) (keeps : circumstances.saving = none) :
      Step sink circumstances state { state with coordinator := .joining }
  | failToSave (saving : state.coordinator = .saving) (fails : circumstances.saving = some false) :
      Step sink circumstances state { state with coordinator := .failed }
  /-- Neither the coordinator nor the scheduler submits groups any more. -/
  | close (joining : state.coordinator = .joining) (ended : state.scheduler = .ended) :
      Step sink circumstances state { state with crew := state.crew.close }
  /-- Workers go on until the session is over. -/
  | work {crew : Crew σ} (going : state.coordinator.hasReturned = false)
      (step : Crew.Step sink state.crew crew) : Step sink circumstances state { state with crew }
  | join (joining : state.coordinator = .joining) (isOver : state.crew.IsOver) :
      Step sink circumstances state { state with coordinator := .finished }

/-- The states that steps lead to. -/
abbrev Reaches (sink : Sink σ) (circumstances : Circumstances) :
    EndingSession σ → EndingSession σ → Prop :=
  Relation.ReflTransGen (Step sink circumstances)

end EndingSession

/-- A session whose last cycle is over, with no scheduled flush under way. -/
def Session.ending (session : Session) : EndingSession Bytes where
  pipeline := session.pipeline
  crew := .ofPool session.emitters session.output
  scheduler := .ended

end Alerting
