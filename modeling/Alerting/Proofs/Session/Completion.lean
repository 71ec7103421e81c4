import Alerting.Proofs.Session.Accounts

/-!
# Sessions come to their end

However far the parts of a session have come, they can go on to the end: nobody waits for
something that cannot come about any more. The coordinator goes through its stages one by
one, and at each of them what it waits for can be brought about by the other parts.
-/

namespace Alerting

/-- The number of stages that a coordinator has before it. -/
def Coordinator.stagesLeft : Coordinator → Nat
  | .receiving => 7
  | .draining => 6
  | .handing _ => 5
  | .stopping => 4
  | .flushing _ => 3
  | .saving => 2
  | .joining => 1
  | .finished | .failed => 0

namespace RunningSession

open Relation

variable {σ : Type} (sink : Sink σ) (circumstances : Circumstances) {state : RunningSession σ}

/-! ## Up to the last cycle -/

/-- An upper bound for the steps that the reader and the coordinator take on the input. -/
def inputLeft (state : RunningSession σ) : Nat :=
  state.inbox.length + state.unread.elim 0 fun lines => 2 * lines.length + 1

/-- While there is input left, it can be read or received. -/
theorem exists_step_of_input (receiving : state.coordinator = .receiving)
    (left : ¬ (state.unread = none ∧ state.inbox = [])) :
    ∃ next, Step sink circumstances state next ∧ next.coordinator = .receiving ∧
      next.inputLeft < state.inputLeft := by
  cases inbox : state.inbox with
  | cons observation rest =>
    refine ⟨_, .receive (.inl receiving) inbox, receiving, ?_⟩
    simp [inputLeft, inbox]
  | nil =>
    cases unread : state.unread with
    | none => exact absurd ⟨unread, inbox⟩ left
    | some lines =>
      cases lines with
      | nil =>
        refine ⟨_, .endReading unread, receiving, ?_⟩
        simp [inputLeft, unread]
      | cons line rest =>
        cases meaning : Ingest.readLine line with
        | observation observation =>
          have room : state.inbox.length < inboxCapacity := by simp [inbox, inboxCapacity]
          refine ⟨_, .read unread meaning room, receiving, ?_⟩
          simp [inputLeft, unread, inbox]
          omega
        | blank =>
          refine ⟨_, .skip unread (.inl meaning), receiving, ?_⟩
          simp [inputLeft, unread]
        | malformed =>
          refine ⟨_, .skip unread (.inr meaning), receiving, ?_⟩
          simp [inputLeft, unread]
        | notText =>
          refine ⟨_, .breakOff unread meaning, receiving, ?_⟩
          simp [inputLeft, unread]

/-- The input comes to its end. -/
theorem exists_draining (receiving : state.coordinator = .receiving) :
    ∃ next, Reaches sink circumstances state next ∧ next.coordinator = .draining := by
  induction size : state.inputLeft using Nat.strongRecOn generalizing state with
  | ind count ih =>
    by_cases ended : state.unread = none ∧ state.inbox = []
    · exact ⟨_, .single (.closeInput receiving ended.1 ended.2), rfl⟩
    · rcases exists_step_of_input sink circumstances receiving ended
        with ⟨next, step, still, less⟩
      rcases ih next.inputLeft (size ▸ less) still rfl with ⟨last, steps, draining⟩
      exact ⟨last, .head step steps, draining⟩

/-- All alerts of the last cycle can be handed to the grouper. -/
theorem reaches_stopping {alerts : List Alert} (handing : state.coordinator = .handing alerts) :
    Reaches sink circumstances state { state with
      pipeline := state.pipeline.withGrouper (state.pipeline.grouper.addAll alerts)
      coordinator := .stopping } := by
  induction alerts generalizing state with
  | nil => exact .single (.cancel handing)
  | cons alert rest ih =>
    let handed : RunningSession σ := { state with
      pipeline := state.pipeline.withGrouper (state.pipeline.grouper.add alert)
      coordinator := .handing rest }
    exact .head (.hand handing) (@ih handed rfl)

/-! ## Flushes -/

/-- The steps of a scheduled flush are steps of the session. -/
theorem reaches_of_flushOnTick {progress : FlushProgress} {last : Flushing σ}
    (running : state.scheduler = .flushing progress)
    (steps : ReflTransGen Flushing.Step (state.flushing progress) last) :
    Reaches sink circumstances state
      { state.afterFlush last with scheduler := .flushing last.progress } := by
  induction steps with
  | refl => exact running ▸ .refl
  | tail _ step ih => exact ih.tail (.flushOnTick rfl step)

/-- The steps of a final flush are steps of the session. -/
theorem reaches_of_flushFinally {progress : FlushProgress} {last : Flushing σ}
    (running : state.coordinator = .flushing progress)
    (steps : ReflTransGen Flushing.Step (state.flushing progress) last) :
    Reaches sink circumstances state
      { state.afterFlush last with coordinator := .flushing last.progress } := by
  induction steps with
  | refl => exact running ▸ .refl
  | tail _ step ih => exact ih.tail (.flushFinally rfl step)

/-- Once the scheduler was told to end, it can end, and the final flush begins. -/
theorem reaches_flushing (stopping : state.coordinator = .stopping)
    (waiting : state.scheduler = .waiting) :
    Reaches sink circumstances state
      { state with scheduler := .ended, coordinator := .flushing .started } :=
  .tail (.single (.endSchedule stopping waiting)) (.beginFlush stopping rfl)

/-- A flush that is under way when the scheduler is told to end is carried through first. -/
theorem exists_flushing (stopping : state.coordinator = .stopping) :
    ∃ next, Reaches sink circumstances state next ∧ next.coordinator = .flushing .started := by
  cases scheduler : state.scheduler with
  | ended => exact ⟨_, .single (.beginFlush stopping scheduler), rfl⟩
  | waiting => exact ⟨_, reaches_flushing sink circumstances stopping scheduler, rfl⟩
  | flushing progress =>
    rcases (state.flushing progress).exists_submitted with ⟨submissions, grouper, crew, steps⟩
    have submitted := reaches_of_flushOnTick sink circumstances scheduler steps
    have flushed := submitted.tail (.endTick rfl)
    exact ⟨_, flushed.trans (reaches_flushing sink circumstances stopping rfl), rfl⟩

/-- The final flush can be carried through. -/
theorem exists_saving {progress : FlushProgress}
    (running : state.coordinator = .flushing progress) :
    ∃ next, Reaches sink circumstances state next ∧ next.coordinator = .saving := by
  rcases (state.flushing progress).exists_submitted with ⟨submissions, grouper, crew, steps⟩
  have submitted := reaches_of_flushFinally sink circumstances running steps
  exact ⟨_, submitted.tail (.endFlush rfl), rfl⟩

/-! ## To the end -/

/-- Unless the checkpoint cannot be saved, the coordinator comes to wait for the workers. -/
theorem exists_joining (saving : state.coordinator = .saving)
    (saves : circumstances.saving ≠ some false) :
    ∃ next, Reaches sink circumstances state next ∧ next.coordinator = .joining := by
  cases kept : circumstances.saving with
  | none => exact ⟨_, .single (.saveNothing saving kept), rfl⟩
  | some saved =>
    cases saved with
    | false => exact absurd kept saves
    | true => exact ⟨_, .single (.save saving kept), rfl⟩

/-- The steps of workers are steps of the session until it is over. -/
theorem reaches_of_work {crew : Crew σ} (going : state.coordinator.hasReturned = false)
    (steps : ReflTransGen (Crew.Step sink) state.crew crew) :
    Reaches sink circumstances state { state with crew } := by
  induction steps with
  | refl => exact .refl
  | tail _ step ih => exact ih.tail (.work going step)

/-- Once nobody submits groups any more, the workers can leave and the session finishes. -/
theorem exists_finished_of_joining (joining : state.coordinator = .joining)
    (closed : state.crew.isOpen = false) :
    ∃ last, Reaches sink circumstances state last ∧ last.coordinator = .finished := by
  rcases state.crew.exists_isOver sink closed with ⟨crew, steps, isOver⟩
  exact ⟨_, (reaches_of_work sink circumstances (joining ▸ rfl) steps).tail (.join joining isOver), rfl⟩

variable {sink circumstances} {batch : Batch} {start : σ}

/-- A session that has not finished can come to a later stage, unless its checkpoint cannot be
saved. -/
theorem Accounts.exists_later (accounts : Accounts batch circumstances sink start state)
    (saves : circumstances.saving ≠ some false) (going : state.coordinator ≠ .finished) :
    ∃ next, Reaches sink circumstances state next ∧
      next.coordinator.stagesLeft < state.coordinator.stagesLeft := by
  cases coordinator : state.coordinator with
  | receiving =>
    rcases exists_draining sink circumstances coordinator with
      ⟨next, reached, draining⟩
    exact ⟨next, reached, by simp [draining, Coordinator.stagesLeft]⟩
  | draining =>
    have inbox := (accounts.intake.read coordinator).2.1
    exact ⟨_, .single (.evaluate coordinator inbox), by simp [Coordinator.stagesLeft]⟩
  | handing alerts =>
    exact ⟨_, reaches_stopping sink circumstances coordinator, by simp [Coordinator.stagesLeft]⟩
  | stopping =>
    rcases exists_flushing sink circumstances coordinator with
      ⟨next, reached, flushing⟩
    exact ⟨next, reached, by simp [flushing, Coordinator.stagesLeft]⟩
  | flushing progress =>
    rcases exists_saving sink circumstances coordinator with
      ⟨next, reached, saving⟩
    exact ⟨next, reached, by simp [saving, Coordinator.stagesLeft]⟩
  | saving =>
    rcases exists_joining sink circumstances coordinator saves with ⟨next, reached, joining⟩
    exact ⟨next, reached, by simp [joining, Coordinator.stagesLeft]⟩
  | joining =>
    have closed : state.crew.isOpen = false := by
      rw [accounts.inOrder.isOpen_eq, coordinator]
      rfl
    rcases exists_finished_of_joining sink circumstances coordinator
      closed with ⟨last, reached, finished⟩
    exact ⟨last, reached, by simp [finished, Coordinator.stagesLeft]⟩
  | finished => exact absurd coordinator going
  | failed => exact absurd (accounts.inOrder.failed coordinator) saves

/-- From wherever it stands, a session can finish, unless its checkpoint cannot be saved. -/
theorem Accounts.exists_finished (accounts : Accounts batch circumstances sink start state)
    (sameTime : circumstances.now = batch.now) (saves : circumstances.saving ≠ some false) :
    ∃ last, Reaches sink circumstances state last ∧ last.coordinator = .finished := by
  induction left : state.coordinator.stagesLeft using Nat.strongRecOn generalizing state with
  | ind count ih =>
    by_cases finished : state.coordinator = .finished
    · exact ⟨state, .refl, finished⟩
    · rcases accounts.exists_later saves finished with ⟨next, reached, less⟩
      rcases ih _ (left ▸ less) (accounts.run sameTime reached) rfl with ⟨last, further, finished⟩
      exact ⟨last, reached.trans further, finished⟩

end RunningSession

end Alerting
