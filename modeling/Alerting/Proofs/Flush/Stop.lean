import Alerting.Proofs.Flush.Running

/-!
# Stopping a schedule gracefully

A schedule that is told to stop begins no further flush, and one that is in progress goes on
to its end. Whoever waits for it learns whether that was in time. Either way nothing is lost:
what a flush took out is submitted, and what comes later waits in the buffer.
-/

namespace Alerting

namespace RunningSchedule

variable {σ : Type} {sink : Sink σ} {before state next : RunningSchedule σ}
  {trace : ScheduleTrace}

/-! ## When a schedule ends -/

/-- No flush was in progress when the schedule was told to stop, or the one that was has come
to its end since then, by the given time. -/
def RestsBy (before : RunningSchedule σ) (trace : ScheduleTrace) (time : Nat) : Prop :=
  before.phase.isFlushing = false ∨ ∃ finish ≤ time, (finish, .finished) ∈ trace

theorem restsBy_append {event : ScheduleEvent} {now time : Nat} :
    before.RestsBy (trace ++ [(now, event)]) time ↔
      before.RestsBy trace time ∨ event = .finished ∧ now ≤ time := by
  simp only [RestsBy, List.mem_append, List.mem_singleton, Prod.mk.injEq]
  constructor
  · rintro (rested | ⟨finish, inTime, earlier | ⟨rfl, rfl⟩⟩)
    · exact .inl (.inl rested)
    · exact .inl (.inr ⟨finish, inTime, earlier⟩)
    · exact .inr ⟨rfl, inTime⟩
  · rintro ((rested | ⟨finish, inTime, earlier⟩) | ⟨rfl, inTime⟩)
    · exact .inl rested
    · exact .inr ⟨finish, inTime, .inl earlier⟩
    · exact .inr ⟨now, inTime, .inr ⟨rfl, rfl⟩⟩

theorem RestsBy.mono {time later : Nat} (rests : before.RestsBy trace time)
    (le : time ≤ later) : before.RestsBy trace later :=
  rests.imp_right fun ⟨finish, inTime, member⟩ => ⟨finish, Nat.le_trans inTime le, member⟩

/-- What holds of a schedule from when it was told to stop. -/
structure Stopping (before : RunningSchedule σ) (timeout : Nat) (trace : ScheduleTrace)
    (state : RunningSchedule σ) : Prop where
  stop_eq : state.stop = some { deadline := before.now + timeout, answer := state.answer? }
  noneBegan : ∀ entry ∈ trace, entry.2 ≠ .began
  flushing : state.phase.isFlushing = true → ∀ time, ¬ before.RestsBy trace time
  resting : state.phase.isFlushing = false → before.RestsBy trace state.now
  unanswered : state.answer? = none → state.now ≤ before.now + timeout
  inTime : state.answer? = some true →
    state.phase = .ended ∧ before.RestsBy trace (before.now + timeout)
  tooLate : state.answer? = some false →
    before.now + timeout < state.now ∧ ¬ before.RestsBy trace (before.now + timeout)

namespace Stopping

variable {timeout : Nat}

theorem cancel (before : RunningSchedule σ) (timeout : Nat) :
    Stopping before timeout [] (before.cancel timeout) where
  stop_eq := rfl
  noneBegan := by simp
  flushing flushing time := by
    rintro (rested | ⟨_, _, none⟩)
    · exact absurd (rested.symm.trans flushing) Bool.false_ne_true
    · cases none
  resting resting := .inl resting
  unanswered _ := Nat.le_add_right _ _
  inTime answer := by cases answer
  tooLate answer := by cases answer

theorem noneBegan_append (stopping : Stopping before timeout trace state) (time : Nat)
    {event : ScheduleEvent} (notBegan : event ≠ .began) :
    ∀ entry ∈ trace ++ [(time, event)], entry.2 ≠ .began := by
  intro entry member
  rcases List.mem_append.1 member with earlier | last
  · exact stopping.noneBegan entry earlier
  · rw [List.mem_singleton.1 last]
    exact notBegan

/-- A step that neither ends a flush nor concerns who waits. -/
theorem later (stopping : Stopping before timeout trace state) (now : state.now ≤ next.now)
    (inTime : state.answer? = none → next.now ≤ before.now + timeout)
    (stop : next.stop = state.stop) (flushing : next.phase.isFlushing = state.phase.isFlushing)
    (ended : state.phase = .ended → next.phase = .ended) {event : ScheduleEvent}
    (notBegan : event ≠ .began) (notFinished : event ≠ .finished) :
    Stopping before timeout (trace ++ [(next.now, event)]) next := by
  have answer : next.answer? = state.answer? := by rw [answer?, stop, answer?]
  constructor
  case stop_eq => rw [stop, answer, stopping.stop_eq]
  case noneBegan => exact stopping.noneBegan_append _ notBegan
  all_goals simp only [restsBy_append, notFinished, false_and, or_false, answer, flushing]
  case flushing => exact stopping.flushing
  case resting => exact fun resting => (stopping.resting resting).mono now
  case unanswered => exact inTime
  case inTime => exact fun answer => (stopping.inTime answer).imp_left ended
  case tooLate =>
    exact fun answer => (stopping.tooLate answer).imp_left fun late => Nat.lt_of_lt_of_le late now

/-- The same where no time passes. -/
theorem same (stopping : Stopping before timeout trace state) (now : next.now = state.now)
    (stop : next.stop = state.stop) (flushing : next.phase.isFlushing = state.phase.isFlushing)
    (ended : state.phase = .ended → next.phase = .ended) {event : ScheduleEvent}
    (notBegan : event ≠ .began) (notFinished : event ≠ .finished) :
    Stopping before timeout (trace ++ [(next.now, event)]) next :=
  stopping.later (Nat.le_of_eq now.symm) (fun answer => now ▸ stopping.unanswered answer) stop
    flushing ended notBegan notFinished

/-- The flush that was in progress comes to its end. -/
theorem finish (stopping : Stopping before timeout trace state) {progress : FlushProgress}
    (underWay : state.phase = .flushing progress) (grouper : Grouper) :
    Stopping before timeout (trace ++ [(state.now, .finished)])
      { state with phase := .waiting, grouper } := by
  constructor
  case stop_eq => exact stopping.stop_eq
  case noneBegan => exact stopping.noneBegan_append _ (by simp)
  case flushing => exact fun flushing => by cases flushing
  case resting => exact fun _ => restsBy_append.2 (.inr ⟨rfl, Nat.le_refl _⟩)
  case unanswered => exact stopping.unanswered
  case inTime =>
    intro inTime
    cases underWay.symm.trans (stopping.inTime inTime).1
  case tooLate =>
    intro tooLate
    rcases stopping.tooLate tooLate with ⟨late, unfinished⟩
    refine ⟨late, fun rests => (restsBy_append.1 rests).elim unfinished fun finished => ?_⟩
    exact absurd finished.2 (Nat.not_le_of_lt late)

/-- Who waits learns that the schedule has ended. -/
theorem join (stopping : Stopping before timeout trace state) {request : StopRequest}
    (ended : state.phase = .ended) (stop : state.stop = some request)
    (unanswered : request.answer = none) :
    Stopping before timeout (trace ++ [(state.now, .nothing)])
      { state with stop := some { request with answer := some true } } := by
  have waited : state.answer? = none := by rw [answer?, stop]; exact unanswered
  have deadline : request.deadline = before.now + timeout :=
    congrArg StopRequest.deadline (Option.some.inj (stop.symm.trans stopping.stop_eq))
  have rests : before.RestsBy trace state.now := stopping.resting (by rw [ended]; rfl)
  constructor
  case stop_eq => rw [← deadline]; rfl
  case noneBegan => exact stopping.noneBegan_append _ (by simp)
  all_goals simp only [restsBy_append, reduceCtorEq, false_and, or_false]
  case flushing => exact stopping.flushing
  case resting => exact fun _ => rests
  case unanswered => exact fun answer => by cases answer
  case inTime => exact fun _ => ⟨ended, rests.mono (stopping.unanswered waited)⟩
  case tooLate => exact fun answer => by cases answer

/-- Time passes. If the deadline does, a flush is still in progress. -/
theorem elapse (stopping : Stopping before timeout trace state) (span : Nat)
    (quiet : ¬ state.IsPrompt) :
    Stopping before timeout (trace ++ [(state.now + span, .nothing)]) (state.elapse span) := by
  have stop : (state.elapse span).stop = some (StopRequest.atTime
      { deadline := before.now + timeout, answer := state.answer? } (state.now + span)) := by
    rw [RunningSchedule.elapse, stopping.stop_eq]
    rfl
  rw [StopRequest.atTime] at stop
  split at stop
  case isFalse waits =>
    refine stopping.later (Nat.le_add_right _ _) (fun answer => ?_) (stop.trans stopping.stop_eq.symm)
      rfl id (by simp) (by simp)
    exact Nat.not_lt.1 fun late => waits ⟨answer, late⟩
  case isTrue expired =>
    have flushing : state.phase.isFlushing = true := by
      by_contra resting
      refine quiet ⟨by simp [stopping.stop_eq], ?_⟩
      rcases SchedulePhase.isIdle_or_eq_ended resting with idle | ended
      · exact .inl idle
      · exact .inr ⟨ended, expired.1⟩
    have answer : (state.elapse span).answer? = some false := by rw [answer?, stop]; rfl
    constructor
    case stop_eq => rw [stop, answer]
    case noneBegan => exact stopping.noneBegan_append _ (by simp)
    all_goals simp only [restsBy_append, reduceCtorEq, false_and, or_false, answer]
    case flushing => exact stopping.flushing
    case resting =>
      exact fun resting => absurd (flushing.symm.trans resting) (by simp)
    case unanswered => simp
    case inTime => simp
    case tooLate => exact fun _ => ⟨expired.2, stopping.flushing flushing _⟩

/-- Whatever step is taken, the schedule goes on stopping. -/
theorem step (stopping : Stopping before timeout trace state) {event : ScheduleEvent}
    (step : Step sink state event next) :
    Stopping before timeout (trace ++ [(next.now, event)]) next := by
  cases step with
  | process _ _ | countStranded _ => apply stopping.same <;> simp
  | endDelay delaying _ => apply stopping.same <;> simp [delaying, SchedulePhase.isFlushing]
  | begin _ _ going => cases stopping.stop_eq.symm.trans going
  | take started _ => apply stopping.same <;> simp [started, SchedulePhase.isFlushing]
  | submit underWay => apply stopping.same <;> simp [underWay, SchedulePhase.isFlushing]
  | finish underWay => exact stopping.finish underWay _
  | leave idle _ =>
    apply stopping.same
    case flushing => exact (SchedulePhase.isFlushing_of_isIdle idle).symm
    all_goals simp
  | join ended stop unanswered => exact stopping.join ended stop unanswered
  | elapse span quiet => exact stopping.elapse span quiet

theorem run {later : ScheduleTrace} (ran : Run sink (before.cancel timeout) later state) :
    Stopping before timeout later state := by
  induction ran with
  | refl => exact cancel before timeout
  | step _ step ih => exact ih.step step

end Stopping

end RunningSchedule

/-! ## What becomes of groups and alerts -/

namespace RunningSchedule

variable {σ : Type} {sink : Sink σ} {before state : RunningSchedule σ} {trace : ScheduleTrace}

theorem Run.accepted (accepts : ∀ group sinkState, (sink group sinkState).1 = .accepted)
    {first : RunningSchedule σ} (ran : Run sink first trace state) :
    ∀ entry ∈ trace.submissions, entry.2 = .accepted := by
  induction ran with
  | refl => simp [ScheduleTrace.submissions]
  | step _ step ih =>
    rw [ScheduleTrace.submissions_append, ScheduleTrace.submissions_singleton]
    intro entry member
    rcases List.mem_append.1 member with earlier | last
    · exact ih entry earlier
    · cases step <;> simp [ScheduleEvent.submission?] at last
      rw [last]
      exact accepts _ _

open ScheduleTrace

end RunningSchedule

end Alerting
