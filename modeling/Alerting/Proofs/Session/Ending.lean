import Alerting.Proofs.Config.Validation
import Alerting.Proofs.Emitter.Shift
import Alerting.Proofs.Flush.Progress
import Alerting.Session.Ending

/-!
# What sessions leave at their end

A session that finishes has waited for its emitters, so whatever they accepted was handed over,
by whichever flush it came. A session that cannot save its checkpoint does not wait: what is still
in the queue or in the hands of a worker then is lost.
-/

namespace Alerting

namespace EndingSession

open Relation

variable {σ : Type} {sink : Sink σ} {circumstances : Circumstances} {start : σ}
  {state next : EndingSession σ}

/-! ## The books of a session at its end -/

/-- The books of the crew balance, and each stage has what the ones before it waited for. -/
structure Accounts (sink : Sink σ) (circumstances : Circumstances) (start : σ)
    (state : EndingSession σ) : Prop where
  balanced : state.crew.Balanced sink start
  staffed : state.crew.pool.workers ≠ 0
  late : state.coordinator.hasStopped = true
  closed : state.crew.isOpen = false → state.scheduler = .ended ∧
    (state.coordinator = .joining ∨ state.coordinator = .finished)
  isOver : state.coordinator = .finished → state.crew.IsOver
  failed : state.coordinator = .failed → circumstances.saving = some false

namespace Accounts

/-- Before the workers are waited for, somebody submits groups. -/
theorem opened (accounts : Accounts sink circumstances start state) {stage : Coordinator}
    (coordinator : state.coordinator = stage) (early : stage ≠ .joining ∧ stage ≠ .finished) :
    state.crew.isOpen = true := by
  by_contra closed
  subst coordinator
  obtain joining | finished := (accounts.closed (Bool.eq_false_iff.2 closed)).2
  · exact early.1 joining
  · exact early.2 finished

/-- As long as a scheduled flush is under way, groups are submitted, and nothing is finished. -/
theorem opened_of_flushing (accounts : Accounts sink circumstances start state)
    {progress : FlushProgress} (running : state.scheduler = .flushing progress) :
    state.crew.isOpen = true ∧ state.coordinator ≠ .finished := by
  have opened : state.crew.isOpen = true := by
    by_contra closed
    have ended := (accounts.closed (Bool.eq_false_iff.2 closed)).1
    rw [running] at ended
    cases ended
  refine ⟨opened, fun finished => ?_⟩
  have closed := accounts.balanced.closed_of_isOver accounts.staffed (accounts.isOver finished)
  rw [closed.1] at opened
  cases opened

/-- While the queue is open and the session goes on, only the books of the crew count. -/
theorem of_opened (balanced : state.crew.Balanced sink start)
    (staffed : state.crew.pool.workers ≠ 0) (opened : state.crew.isOpen = true)
    (late : state.coordinator.hasStopped = true) (unfinished : state.coordinator ≠ .finished)
    (failed : state.coordinator = .failed → circumstances.saving = some false) :
    Accounts sink circumstances start state where
  balanced := balanced
  staffed := staffed
  late := late
  closed closed := by
    rw [closed] at opened
    cases opened
  isOver finished := absurd finished unfinished
  failed := failed

/-- The coordinator goes on to a stage that asks nothing of the workers. -/
theorem proceed (accounts : Accounts sink circumstances start state)
    (opened : state.crew.isOpen = true) {pipeline : Pipeline} {saved : Option Checkpoint}
    {stage : Coordinator} (late : stage.hasStopped = true) (unfinished : stage ≠ .finished)
    (failed : stage = .failed → circumstances.saving = some false) :
    Accounts sink circumstances start
      { state with pipeline, coordinator := stage, saved } :=
  of_opened accounts.balanced accounts.staffed opened late unfinished failed

/-- A step of a flush, whichever it is, leaves the queue open and its books balanced. -/
theorem flush (accounts : Accounts sink circumstances start state)
    (opened : state.crew.isOpen = true) {progress : FlushProgress} {flushing : Flushing σ}
    (step : Flushing.Step (state.flushing progress) flushing) {scheduler : Scheduler}
    {stage : Coordinator} (late : stage.hasStopped = true) (unfinished : stage ≠ .finished)
    (failed : stage = .failed → circumstances.saving = some false) :
    Accounts sink circumstances start
      { state.afterFlush flushing with scheduler, coordinator := stage } := by
  obtain ⟨-, workers, -, stillOpen⟩ := step.frame
  have staffed : flushing.crew.pool.workers ≠ 0 := workers.trans_ne accounts.staffed
  exact of_opened (step.balanced accounts.balanced opened) staffed (stillOpen.trans opened) late
    unfinished failed

/-- The scheduler ends. -/
theorem endSchedule (accounts : Accounts sink circumstances start state) {pipeline : Pipeline} :
    Accounts sink circumstances start { state with pipeline, scheduler := .ended } where
  balanced := accounts.balanced
  staffed := accounts.staffed
  late := accounts.late
  closed closed := ⟨rfl, (accounts.closed closed).2⟩
  isOver := accounts.isOver
  failed := accounts.failed

/-- Whatever step is taken, the books balance after it. -/
theorem step (accounts : Accounts sink circumstances start state)
    (step : Step sink circumstances state next) : Accounts sink circumstances start next := by
  cases step with
  | flushOnTick running step =>
    obtain ⟨opened, unfinished⟩ := accounts.opened_of_flushing running
    exact accounts.flush opened step accounts.late unfinished accounts.failed
  | endTick running => exact accounts.endSchedule
  | endSchedule waiting => exact accounts.endSchedule
  | flushFinally running step =>
    exact accounts.flush (accounts.opened running (by simp)) step rfl (by simp) (by simp)
  | endFlush running =>
    exact accounts.proceed (accounts.opened running (by simp)) rfl (by simp) (by simp)
  | save saving saves =>
    exact accounts.proceed (accounts.opened saving (by simp)) rfl (by simp) (by simp)
  | saveNothing saving keeps =>
    exact accounts.proceed (accounts.opened saving (by simp)) rfl (by simp) (by simp)
  | failToSave saving fails =>
    exact accounts.proceed (accounts.opened saving (by simp)) rfl (by simp) fun _ => fails
  | close joining ended =>
    constructor
    case balanced => exact accounts.balanced.close
    case staffed => exact accounts.staffed
    case late => exact accounts.late
    case closed => exact fun _ => ⟨ended, .inl joining⟩
    case isOver => exact fun finished => absurd (joining.symm.trans finished) (by simp)
    case failed => exact accounts.failed
  | work going step =>
    obtain ⟨workers, -, sameOpen, -⟩ := step.frame
    constructor
    case balanced => exact accounts.balanced.step step
    case staffed => exact workers ▸ accounts.staffed
    case late => exact accounts.late
    case closed => exact fun closed => accounts.closed (sameOpen.symm.trans closed)
    case isOver =>
      intro finished
      rw [finished] at going
      cases going
    case failed => exact accounts.failed
  | join joining isOver =>
    constructor
    case balanced => exact accounts.balanced
    case staffed => exact accounts.staffed
    case late => rfl
    case closed => exact fun closed => ⟨(accounts.closed closed).1, .inr rfl⟩
    case isOver => exact fun _ => isOver
    case failed => simp

theorem run (accounts : Accounts sink circumstances start state)
    (reached : Reaches sink circumstances state next) :
    Accounts sink circumstances start next := by
  induction reached with
  | refl => exact accounts
  | tail _ step ih => exact ih.step step

end Accounts

/-! ## Going on to the end -/

section Reaches

variable (sink circumstances)

/-- The steps of a scheduled flush are steps of the session. -/
theorem reaches_of_flushOnTick {progress : FlushProgress} {last : Flushing σ}
    (running : state.scheduler = .flushing progress)
    (steps : ReflTransGen Flushing.Step (state.flushing progress) last) :
    Reaches sink circumstances state
      { state.afterFlush last with scheduler := .flushing last.progress } := by
  induction steps with
  | refl => exact running ▸ .refl
  | tail _ step ih => exact ih.tail (.flushOnTick rfl step)

/-- The steps of a final flush are steps of the session. -/
theorem reaches_of_flushFinally {progress : FlushProgress} {last : Flushing σ}
    (running : state.coordinator = .flushing progress)
    (steps : ReflTransGen Flushing.Step (state.flushing progress) last) :
    Reaches sink circumstances state
      { state.afterFlush last with coordinator := .flushing last.progress } := by
  induction steps with
  | refl => exact running ▸ .refl
  | tail _ step ih => exact ih.tail (.flushFinally rfl step)

/-- The steps of workers are steps of the session until it is over. -/
theorem reaches_of_work {crew : Crew σ} (going : state.coordinator.hasReturned = false)
    (steps : ReflTransGen (Crew.Step sink) state.crew crew) :
    Reaches sink circumstances state { state with crew } :=
  steps.lift (fun crew => { state with crew }) fun _ _ step => .work going step

/-- The final flush can be carried through. -/
theorem exists_saving {progress : FlushProgress}
    (running : state.coordinator = .flushing progress) :
    ∃ next, Reaches sink circumstances state next ∧ next.coordinator = .saving := by
  obtain ⟨submissions, grouper, crew, steps⟩ := (state.flushing progress).exists_submitted
  have submitted := reaches_of_flushFinally sink circumstances running steps
  exact ⟨_, submitted.tail (.endFlush rfl), rfl⟩

/-- The scheduler can end, after the flush that it may have under way. -/
theorem exists_ended (state : EndingSession σ) : ∃ next, Reaches sink circumstances state next ∧
    next.coordinator = state.coordinator ∧ next.scheduler = .ended := by
  cases scheduler : state.scheduler with
  | ended => exact ⟨state, .refl, rfl, scheduler⟩
  | waiting => exact ⟨_, .single (.endSchedule scheduler), rfl, rfl⟩
  | flushing progress =>
    obtain ⟨submissions, grouper, crew, steps⟩ := (state.flushing progress).exists_submitted
    have submitted := reaches_of_flushOnTick sink circumstances scheduler steps
    exact ⟨_, submitted.tail (.endTick rfl), rfl, rfl⟩

/-- Once the workers are waited for, the queue can be closed, and the session finishes. -/
theorem exists_finished (joining : state.coordinator = .joining) :
    ∃ last, Reaches sink circumstances state last ∧ last.coordinator = .finished := by
  obtain ⟨next, reached, stage, ended⟩ := exists_ended sink circumstances state
  have still : next.coordinator = .joining := stage.trans joining
  let closing : EndingSession σ := { next with crew := next.crew.close }
  have closed : Reaches sink circumstances state closing := reached.tail (.close still ended)
  obtain ⟨crew, steps, isOver⟩ := closing.crew.exists_isOver sink rfl
  have going : closing.coordinator.hasReturned = false := by
    rw [show closing.coordinator = .joining from still]
    rfl
  have left := closed.trans (reaches_of_work sink circumstances going steps)
  exact ⟨_, left.tail (.join still isOver), rfl⟩

/-- Unless the checkpoint cannot be saved, the coordinator goes on to wait for the workers. -/
theorem step_joining (saving : state.coordinator = .saving)
    (saves : circumstances.saving ≠ some false) :
    Step sink circumstances state { state with
      saved := (circumstances.saving.map
        fun _ => state.pipeline.checkpoint circumstances.takenAt).or state.saved
      coordinator := .joining } := by
  cases kept : circumstances.saving with
  | none => exact .saveNothing saving kept
  | some saved =>
    cases saved with
    | false => exact absurd kept saves
    | true => exact .save saving kept

/-- When the final flush is over, the session finishes, or it fails to save its checkpoint. -/
theorem exists_returned_of_saving (saving : state.coordinator = .saving) :
    ∃ last, Reaches sink circumstances state last ∧ last.coordinator.hasReturned = true := by
  by_cases fails : circumstances.saving = some false
  · exact ⟨_, .single (.failToSave saving fails), rfl⟩
  · obtain ⟨next, step, joining⟩ : ∃ next, Step sink circumstances state next ∧
        next.coordinator = .joining := ⟨_, step_joining sink circumstances saving fails, rfl⟩
    obtain ⟨last, reached, finished⟩ := exists_finished sink circumstances joining
    exact ⟨last, .head step reached, finished ▸ rfl⟩

/-- From wherever it stands, a session can return. -/
theorem exists_returned (late : state.coordinator.hasStopped = true) :
    ∃ last, Reaches sink circumstances state last ∧ last.coordinator.hasReturned = true := by
  cases coordinator : state.coordinator with
  | receiving | draining | handing _ | stopping => simp [coordinator, Coordinator.hasStopped] at late
  | flushing progress =>
    obtain ⟨next, reached, saving⟩ := exists_saving sink circumstances coordinator
    obtain ⟨last, further, returned⟩ := exists_returned_of_saving sink circumstances saving
    exact ⟨last, reached.trans further, returned⟩
  | saving => exact exists_returned_of_saving sink circumstances coordinator
  | joining =>
    obtain ⟨last, reached, finished⟩ := exists_finished sink circumstances coordinator
    exact ⟨last, reached, finished ▸ rfl⟩
  | finished | failed => exact ⟨state, .refl, coordinator ▸ rfl⟩

end Reaches

end EndingSession

/-! ## Sessions that do one thing after the other -/

/-- A session whose final flush is over, with emitters that have not written anything since. -/
structure EndingSession.HasFlushed (session : Session) (state : EndingSession Bytes) : Prop where
  saving : state.coordinator = .saving
  ended : state.scheduler = .ended
  unsaved : state.saved = none
  pipeline : state.pipeline = session.flush.pipeline
  pool : state.crew.pool = session.flush.emitters
  written : state.crew.sinkState = session.flush.output
  workers : state.crew.workers = List.replicate session.emitters.workers {}

namespace Session

variable (session : Session) (circumstances : Circumstances)

/-- The final flush can be over before the emitters write anything. -/
theorem exists_hasFlushed : ∃ flushed : EndingSession Bytes, flushed.HasFlushed session ∧
    EndingSession.Reaches (jsonLines .append) circumstances session.ending flushed := by
  obtain ⟨submissions, grouper, accepted, steps, counted⟩ :=
    Flushing.reaches_flush session.pipeline.grouper (Crew.ofPool session.emitters session.output)
  have submitted := EndingSession.reaches_of_flushFinally (jsonLines .append) circumstances
    (rfl : session.ending.coordinator = .flushing .started) steps
  refine ⟨_, ?_, submitted.tail (.endFlush rfl)⟩
  constructor
  case saving => rfl
  case ended => rfl
  case unsaved => rfl
  case pipeline =>
    have same : session.flush.pipeline =
        session.pipeline.withGrouper (grouper.countGroups submissions.length) := by
      rw [counted]
      rfl
    rw [same]
    rfl
  case pool => rfl
  case written => rfl
  case workers => rfl

/-- A session that cannot save its checkpoint can end after its emitters wrote any number of
groups. -/
theorem exists_failed (fails : circumstances.saving = some false)
    (workers : session.emitters.workers ≠ 0) (early : Nat) :
    ∃ last, EndingSession.Reaches (jsonLines .append) circumstances session.ending last ∧
      last.coordinator = .failed ∧ last.crew.pool = (session.flush.emit early).emitters ∧
      last.crew.sinkState = (session.flush.emit early).output ∧ last.crew.inHands = [] := by
  obtain ⟨count, staff⟩ := Nat.exists_eq_succ_of_ne_zero workers
  obtain ⟨state, flushed, reached⟩ := session.exists_hasFlushed circumstances
  have free : state.crew.workers = {} :: List.replicate count {} := by
    rw [flushed.workers, staff, List.replicate_succ]
  obtain ⟨emitted, taken, steps⟩ := state.crew.reaches_worked (jsonLines .append) early 0 free
  have going : state.coordinator.hasReturned = false := by
    rw [flushed.saving]
    rfl
  have worked := reached.trans (EndingSession.reaches_of_work _ circumstances going steps)
  refine ⟨_, worked.tail (.failToSave flushed.saving fails), rfl, ?_, ?_, ?_⟩
  · simp only [flushed.pool, flushed.written]
    rfl
  · simp only [flushed.pool, flushed.written]
    rfl
  · simp [Crew.inHands, Worker.group?]

/-- If the checkpoint cannot be saved, all that the final flush got accepted can be lost. -/
theorem exists_lost (fails : circumstances.saving = some false)
    (fresh : session.emitters.queue = [] ∧ session.emitters.handled = [])
    (workers : session.emitters.workers ≠ 0) :
    ∃ last, EndingSession.Reaches (jsonLines .append) circumstances session.ending last ∧
      last.coordinator = .failed ∧ last.crew.accepted = session.flush.emitters.queue ∧
      last.crew.handedOver = [] ∧ last.crew.sinkState = session.output := by
  obtain ⟨last, reached, failed, pool, written, inHands⟩ :=
    session.exists_failed circumstances fails workers 0
  have first : EndingSession.Accounts (jsonLines .append) circumstances session.output
      session.ending :=
    .of_opened (Crew.balanced_ofPool fresh _ _) workers rfl rfl (by simp [ending]) (by simp [ending])
  have books := (first.run reached).balanced
  have handedOver : last.crew.handedOver = [] := by
    have handled : session.flush.emitters.handled = [] :=
      (EmitterPool.handled_submitAll _ session.emitters).trans fresh.2
    rw [Crew.handedOver, pool]
    exact List.map_eq_nil_iff.2 handled
  have taken : last.crew.taken = [] := by
    have perm := books.taken_perm
    rw [handedOver, inHands] at perm
    exact perm.eq_nil
  refine ⟨last, reached, failed, ?_, handedOver, written⟩
  rw [books.accepted_eq, taken, pool]
  rfl

/-- A session that keeps no checkpoint, or saves it, can end after its emitters wrote all groups. -/
theorem exists_finished (saves : circumstances.saving ≠ some false)
    (workers : session.emitters.workers ≠ 0) :
    ∃ last, EndingSession.Reaches (jsonLines .append) circumstances session.ending last ∧
      last.coordinator = .finished ∧ last.pipeline = session.flush.pipeline ∧
      last.saved = circumstances.saving.map
        (fun _ => session.flush.pipeline.checkpoint circumstances.takenAt) ∧
      last.crew.pool = session.flush.drain.emitters ∧
      last.crew.sinkState = session.flush.drain.output := by
  obtain ⟨count, staff⟩ := Nat.exists_eq_succ_of_ne_zero workers
  obtain ⟨state, flushed, reached⟩ := session.exists_hasFlushed circumstances
  have joined := reached.tail
    (EndingSession.step_joining (jsonLines .append) circumstances flushed.saving saves)
  have closed := joined.tail (.close rfl flushed.ended)
  have free : state.crew.close.workers = List.replicate (count + 1) {} := by
    rw [← Nat.succ_eq_add_one, ← staff]
    exact flushed.workers
  obtain ⟨last, steps, isOver, pool, written⟩ :=
    state.crew.close.exists_drained (jsonLines .append) rfl free
  have worked := closed.trans (EndingSession.reaches_of_work _ circumstances rfl steps)
  refine ⟨_, worked.tail (.join rfl isOver), rfl, flushed.pipeline, ?_, pool.trans ?_,
    written.trans ?_⟩
  · simp [flushed.pipeline, flushed.unsaved]
  · simp only [Crew.close, flushed.pool, flushed.written]
    rfl
  · simp only [Crew.close, flushed.pool, flushed.written]
    rfl

end Session

namespace EndingSession

variable {σ : Type}

/--
A session that comes to its end after any shift of its emitters, with anything buffered, whether
or not a scheduled flush is under way, and whatever the final sink does. In whatever order the
flushes, the coordinator and the workers take their steps: what was handed over was given to the
final sink once, one group after the other, and what was accepted besides is in the hands of the
workers or in the queue. When the session has returned, nothing is there any more, unless the
checkpoint could not be saved. From wherever it stands, the session can return.
-/
theorem returned_sessions_handed_over_what_was_accepted {workers : Nat} (staffed : workers ≠ 0)
    (capacity : Nat) (sink : Sink σ) (written : σ) {shift : Shift σ}
    (worked : Shift.Reaches sink (.start { workers, capacity } written) shift)
    (opened : shift.crew.isOpen = true) (pipeline : Pipeline) (scheduler : Scheduler)
    (circumstances : Circumstances) {last : EndingSession σ}
    (reached : Reaches sink circumstances { pipeline, crew := shift.crew, scheduler } last) :
    submitAll sink last.crew.handedOver written = (last.crew.pool.handled, last.crew.sinkState) ∧
      last.crew.accepted.Perm
        (last.crew.handedOver ++ last.crew.inHands ++ last.crew.pool.queue) ∧
      (last.coordinator.hasReturned = true → circumstances.saving ≠ some false →
        last.crew.accepted.Perm last.crew.handedOver) ∧
      ∃ next, Reaches sink circumstances last next ∧ next.coordinator.hasReturned = true := by
  have shiftBooks := (Shift.balanced_start ⟨rfl, rfl⟩ sink written).run worked
  have present : shift.crew.pool.workers ≠ 0 := shiftBooks.workers_eq.symm ▸ staffed
  have first : Accounts sink circumstances written { pipeline, crew := shift.crew, scheduler } :=
    .of_opened shiftBooks.crew present opened rfl (by simp) (by simp)
  have accounts := first.run reached
  have books := accounts.balanced
  have perm : last.crew.accepted.Perm
      (last.crew.handedOver ++ last.crew.inHands ++ last.crew.pool.queue) := by
    rw [books.accepted_eq]
    exact books.taken_perm.append_right _
  refine ⟨books.handled_eq, perm, ?_, exists_returned sink circumstances accounts.late⟩
  intro returned saves
  have finished : last.coordinator = .finished := by
    cases coordinator : last.coordinator with
    | finished => rfl
    | failed => exact absurd (accounts.failed coordinator) saves
    | _ => simp [coordinator, Coordinator.hasReturned] at returned
  exact books.perm_of_isOver accounts.staffed (accounts.isOver finished)

/-- One bad host, and a checkpoint that can be saved: when the session has returned, the group of
the alert was handed over. -/
theorem returned_sessions_handed_over_what_was_accepted_bad_host :
    let config : Config := { alerts := [{ id := 7, groupBy := some ["host"] }] }
    let content := Bytes.ofText
      "\x7b\"alert_id\":7,\"tags\":\x7b\"host\":\"db1\"\x7d,\"state\":\"bad\",\"timestamp\":100\x7d\n"
    let stored : Option (String × FileContent) := some ("state.json", .absent)
    ∃ session, Session.start config stored 0 = .ok session ∧
      let evaluated := (session.feed (.bytes content)).cycle 100
      ∃ group last, Reaches (jsonLines .append) ⟨100, 101, some true⟩ evaluated.ending last ∧
        last.coordinator = .finished ∧ last.crew.handedOver = [group] ∧
        last.crew.accepted = [group] := by
  intro config content stored
  have facts : ((Session.start config stored 0).toOption.map fun session =>
      let evaluated := (session.feed (.bytes content)).cycle 100
      (evaluated.emitters, evaluated.output,
        (evaluated.flush.drain.emitters.handled.map Prod.fst).length)) =
      some ({ workers := 2, capacity := 1024 }, [], 1) := by decide +kernel
  obtain ⟨session, started, facts⟩ := Option.map_eq_some_iff.1 facts
  refine ⟨session, toOption_eq_some.1 started, ?_⟩
  generalize (session.feed (.bytes content)).cycle 100 = evaluated at facts ⊢
  simp only [Prod.mk.injEq] at facts
  obtain ⟨emitters, output, handled⟩ := facts
  obtain ⟨group, single⟩ := List.length_eq_one_iff.1 handled
  obtain ⟨last, reached, finished, -, -, pool, -⟩ :=
    evaluated.exists_finished ⟨100, 101, some true⟩ (by decide) (by simp [emitters])
  have handedOver : last.crew.handedOver = [group] := by rw [Crew.handedOver, pool, single]
  have ending : evaluated.ending = {
      pipeline := evaluated.pipeline
      crew := (Shift.start { workers := 2, capacity := 1024 } []).crew
      scheduler := .ended } := by
    rw [Session.ending, emitters, output]
    rfl
  have reached' := reached
  rw [ending] at reached'
  obtain ⟨-, -, perm, -⟩ := returned_sessions_handed_over_what_was_accepted (by decide) 1024
    (jsonLines .append) [] .refl rfl evaluated.pipeline .ended ⟨100, 101, some true⟩ reached'
  have accepted := perm (finished ▸ rfl) (by decide)
  rw [handedOver] at accepted
  exact ⟨group, last, reached, finished, handedOver, List.perm_singleton.1 accepted⟩

/-- The same host, and a checkpoint that cannot be saved: the session can return while the group
that its final flush got accepted is still in the queue. -/
theorem unsaved_session_loses_group :
    let config : Config := { alerts := [{ id := 7, groupBy := some ["host"] }] }
    let content := Bytes.ofText
      "\x7b\"alert_id\":7,\"tags\":\x7b\"host\":\"db1\"\x7d,\"state\":\"bad\",\"timestamp\":100\x7d\n"
    let stored : Option (String × FileContent) := some ("state.json", .absent)
    ∃ session, Session.start config stored 0 = .ok session ∧
      let evaluated := (session.feed (.bytes content)).cycle 100
      ∃ group last, Reaches (jsonLines .append) ⟨100, 101, some false⟩ evaluated.ending last ∧
        last.coordinator = .failed ∧ last.crew.accepted = [group] ∧
        last.crew.handedOver = [] ∧ last.crew.sinkState = [] := by
  intro config content stored
  have facts : ((Session.start config stored 0).toOption.map fun session =>
      let evaluated := (session.feed (.bytes content)).cycle 100
      (evaluated.emitters, evaluated.output, evaluated.flush.emitters.queue.length)) =
      some ({ workers := 2, capacity := 1024 }, [], 1) := by decide +kernel
  obtain ⟨session, started, facts⟩ := Option.map_eq_some_iff.1 facts
  refine ⟨session, toOption_eq_some.1 started, ?_⟩
  generalize (session.feed (.bytes content)).cycle 100 = evaluated at facts ⊢
  simp only [Prod.mk.injEq] at facts
  obtain ⟨emitters, output, queued⟩ := facts
  obtain ⟨group, single⟩ := List.length_eq_one_iff.1 queued
  obtain ⟨last, reached, failed, accepted, handedOver, written⟩ :=
    evaluated.exists_lost ⟨100, 101, some false⟩ rfl (by simp [emitters]) (by simp [emitters])
  exact ⟨group, last, reached, failed, accepted.trans single, handedOver, written.trans output⟩

end EndingSession

end Alerting
