import Alerting.Proofs.Session.Delivery

/-!
# A session that does one thing after the other

A session on its own reads all of its input before it runs the last cycle, flushes once, and
lets its emitters write when there is nothing else to do. That is one of the orders that the
parts of a running session can take their steps in, so what holds for all of them holds for it.
-/

namespace Alerting

namespace RunningSession

variable {σ : Type} (sink : Sink σ) (circumstances : Circumstances)

/-- Each line can be read, and its observation received, before the next line is read. -/
theorem reaches_read (lines : List Bytes) {state : RunningSession σ}
    (unread : state.unread = some lines) (inbox : state.inbox = [])
    (receiving : state.coordinator = .receiving) :
    Reaches sink circumstances state { state with
      unread := none
      pipeline := (toRead (some lines)).foldl Pipeline.observe state.pipeline } := by
  rcases state with ⟨pipeline, crew, _, _, scheduler, _, saved⟩
  subst unread inbox receiving
  induction lines generalizing pipeline with
  | nil => exact .single (.endReading rfl)
  | cons line rest ih =>
    cases meaning : Ingest.readLine line with
    | observation observation =>
      rw [toRead_of_observation meaning]
      exact .head (.read rfl meaning (by simp [inboxCapacity]))
        (.head (.receive (.inl rfl) rfl) (ih (pipeline.observe observation)))
    | blank =>
      rw [toRead_of_skipped (.inl meaning)]
      exact .head (.skip rfl (.inl meaning)) (ih pipeline)
    | malformed =>
      rw [toRead_of_skipped (.inr meaning)]
      exact .head (.skip rfl (.inr meaning)) (ih pipeline)
    | notText =>
      rw [toRead_of_notText meaning]
      exact .single (.breakOff rfl meaning)

/-- When nothing is left of the input, the last cycle can run and its alerts be handed on. -/
theorem reaches_cycled {state : RunningSession σ} (receiving : state.coordinator = .receiving)
    (unread : state.unread = none) (inbox : state.inbox = []) :
    Reaches sink circumstances state { state with
      pipeline := (state.pipeline.cycle circumstances.now).2
      coordinator := .stopping } :=
  .head (.closeInput receiving unread inbox)
    (.head (.evaluate rfl inbox) (reaches_stopping sink circumstances rfl))

/-- If no scheduled flush is under way, the final flush finds all that is buffered. -/
theorem reaches_flushed {state : RunningSession σ} (stopping : state.coordinator = .stopping)
    (waiting : state.scheduler = .waiting) :
    let flushed := state.pipeline.grouper.flush EmitterPool.submit state.crew.pool
    ∃ accepted, Reaches sink circumstances state { state with
      pipeline := state.pipeline.withGrouper flushed.2.1
      crew := { state.crew with pool := flushed.2.2, accepted }
      scheduler := .ended
      coordinator := .saving } := by
  intro flushed
  rcases Flushing.reaches_flush state.pipeline.grouper state.crew with
    ⟨submissions, grouper, accepted, steps, counted⟩
  have begun := reaches_flushing sink circumstances stopping waiting
  have submitted := begun.trans (reaches_of_flushFinally sink circumstances rfl steps)
  refine ⟨accepted, ?_⟩
  rw [← counted]
  exact submitted.tail (.endFlush rfl)

/-- Unless the checkpoint cannot be saved, nobody submits groups any more after it was. -/
theorem reaches_joining {state : RunningSession σ} (saving : state.coordinator = .saving)
    (unsaved : state.saved = none) (saves : circumstances.saving ≠ some false) :
    Reaches sink circumstances state { state with
      saved := circumstances.saving.map fun _ => state.pipeline.checkpoint circumstances.takenAt
      crew := state.crew.close
      coordinator := .joining } := by
  cases kept : circumstances.saving with
  | none =>
    rw [Option.map_none, ← unsaved]
    exact .single (.saveNothing saving kept)
  | some saved =>
    cases saved with
    | false => exact absurd kept saves
    | true => exact .single (.save saving kept)

/-- The workers can empty a closed queue and leave, in the order in which the pool drains. -/
theorem reaches_finished {state : RunningSession σ} (joining : state.coordinator = .joining)
    (closed : state.crew.isOpen = false) {count : Nat}
    (workers : state.crew.workers = List.replicate (count + 1) {}) :
    let drained := state.crew.pool.drain sink state.crew.sinkState
    ∃ last, Reaches sink circumstances state last ∧ last.coordinator = .finished ∧
      last.pipeline = state.pipeline ∧ last.saved = state.saved ∧
      last.crew.pool = drained.1 ∧ last.crew.sinkState = drained.2 := by
  rcases state.crew.exists_drained sink closed workers with ⟨crew, steps, isOver, pool, written⟩
  have going : state.coordinator.hasReturned = false := joining ▸ rfl
  have working := reaches_of_work sink circumstances going steps
  exact ⟨_, working.tail (.join joining isOver), rfl, rfl, rfl, pool, written⟩

/-- From the end of the last cycle, a session can flush, keep its checkpoint and drain. -/
theorem reaches_drained {state : RunningSession σ} (stopping : state.coordinator = .stopping)
    (waiting : state.scheduler = .waiting) (unsaved : state.saved = none)
    (saves : circumstances.saving ≠ some false) {cycled : Pipeline}
    (hasCycled : state.pipeline = cycled) {pool : EmitterPool} {written : σ} {count : Nat}
    (idle : state.crew = .ofPool pool written) (workers : pool.workers = count + 1) :
    let flushed := cycled.grouper.flush EmitterPool.submit pool
    let pipeline := cycled.withGrouper flushed.2.1
    let drained := flushed.2.2.drain sink written
    ∃ last, Reaches sink circumstances state last ∧ last.coordinator = .finished ∧
      last.pipeline = pipeline ∧
      last.saved =
        circumstances.saving.map (fun _ => pipeline.checkpoint circumstances.takenAt) ∧
      last.crew.pool = drained.1 ∧ last.crew.sinkState = drained.2 := by
  intro flushed pipeline drained
  rcases state with ⟨_, _, unread, inbox, _, _, _⟩
  subst hasCycled idle
  rcases reaches_flushed sink circumstances stopping waiting with ⟨accepted, flushing⟩
  let crew : Crew σ := { Crew.ofPool pool written with pool := flushed.2.2, accepted }
  let joining : RunningSession σ := {
    pipeline, crew := crew.close, unread, inbox
    scheduler := .ended
    coordinator := .joining
    saved := circumstances.saving.map fun _ => pipeline.checkpoint circumstances.takenAt }
  have keeping := flushing.trans (reaches_joining sink circumstances rfl unsaved saves)
  have sameWorkers : joining.crew.workers = List.replicate (count + 1) {} := workers ▸ rfl
  rcases reaches_finished sink circumstances (rfl : joining.coordinator = .joining) rfl
    sameWorkers with ⟨last, emitting, finished, pipelineKept, savedKept, ends⟩
  exact ⟨last, keeping.trans emitting, finished, pipelineKept, savedKept, ends⟩

end RunningSession

namespace Session

variable (session : Session)

/-- What the last cycle and the final flush make of a session. -/
theorem flush_cycle (now : Instant) :
    let cycled := (session.pipeline.cycle now).2
    let flushed := cycled.grouper.flush EmitterPool.submit session.emitters
    (session.cycle now).flush.pipeline = cycled.withGrouper flushed.2.1 ∧
      (session.cycle now).flush.emitters = flushed.2.2 ∧
      (session.cycle now).flush.output = session.output :=
  ⟨rfl, rfl, rfl⟩

/-- When a session drains, its pool does. -/
theorem drain_eq :
    let drained := session.emitters.drain (jsonLines .append) session.output
    session.drain.emitters = drained.1 ∧ session.drain.output = drained.2 :=
  ⟨rfl, rfl⟩

/-- A session that does one thing after the other takes the steps of a running session. -/
theorem reaches_sequential (content : Bytes)
    (circumstances : Circumstances) (saves : circumstances.saving ≠ some false)
    (workers : session.emitters.workers ≠ 0) :
    let flushed := ((session.feed (.bytes content)).cycle circumstances.now).flush
    ∃ last, RunningSession.Reaches (jsonLines .append) circumstances (session.running content)
        last ∧
      last.coordinator = .finished ∧ last.pipeline = flushed.pipeline ∧
      last.saved = circumstances.saving.map
        (fun _ => flushed.pipeline.checkpoint circumstances.takenAt) ∧
      last.crew.pool = flushed.drain.emitters ∧ last.crew.sinkState = flushed.drain.output := by
  intro flushed
  rcases session.exists_feed_eq content with ⟨events, fed⟩
  obtain ⟨count, some⟩ : ∃ count, session.emitters.workers = count + 1 :=
    Nat.exists_eq_succ_of_ne_zero workers
  have reading : RunningSession.Reaches (jsonLines .append) circumstances (session.running content)
      { session.running content with
        pipeline := (Ingest.read content).observations.foldl Pipeline.observe session.pipeline
        unread := none } :=
    RunningSession.reaches_read (jsonLines .append) circumstances (Ingest.lines content) rfl rfl rfl
  generalize (Ingest.read content).observations.foldl Pipeline.observe session.pipeline = pipeline
    at fed reading
  let stopping : RunningSession Bytes := { session.running content with
    pipeline := (pipeline.cycle circumstances.now).2
    unread := none
    coordinator := .stopping }
  have cycling : RunningSession.Reaches _ _ _ stopping :=
    reading.trans (RunningSession.reaches_cycled _ _ rfl rfl rfl)
  rcases RunningSession.reaches_drained (jsonLines .append) circumstances
    (rfl : stopping.coordinator = .stopping) rfl rfl saves
    (rfl : stopping.pipeline = (pipeline.cycle circumstances.now).2)
    (rfl : stopping.crew = .ofPool session.emitters session.output) some with
    ⟨last, draining, finished, ends⟩
  rcases (session.feed (.bytes content)).flush_cycle circumstances.now with
    ⟨samePipeline, sameEmitters, sameOutput⟩
  rcases flushed.drain_eq with ⟨sameDrained, sameWritten⟩
  refine ⟨last, cycling.trans draining, finished, ?_⟩
  rw [sameDrained, sameWritten, samePipeline, sameEmitters, sameOutput, fed]
  exact ends

end Session

end Alerting
