import Alerting.Proofs.Flush.Running
import Alerting.Proofs.Flush.Schedule

/-!
# Schedules whose flushes take no time

A scheduled grouper flushes when a flush is due, at once and undisturbed. What it does, from
its start to its stop, is one order of the steps of a schedule at work.
-/

namespace Alerting

namespace FlushSchedule

/-- A schedule is started ahead of its first flush, and time passes between two flushes. -/
theorem startAt?_eq_some {frequency : FlushFrequency} {now : Nat} {schedule : FlushSchedule}
    (starts : startAt? frequency now = some schedule) :
    now ≤ schedule.due ∧ 0 < schedule.period := by
  rw [startAt?, Option.map_eq_some_iff] at starts
  rcases starts with ⟨delay, -, rfl⟩
  refine ⟨Nat.le_add_right _ _, Nat.pos_of_ne_zero fun zero => ?_⟩
  have nothing : frequency.duration.seconds.toNat = 0 ∧
      frequency.duration.nanoseconds.toNat = 0 := by
    simpa [Nat.mul_eq_zero] using zero
  exact Nat.ne_of_gt frequency.milliseconds_pos (by simp [Duration.milliseconds, nothing])

/-- After the next flush, one flush less is due until some time. -/
theorem countUntil_next {schedule : FlushSchedule} (positive : 0 < schedule.period) {time : Nat}
    {count : Nat} (due : schedule.countUntil time = count + 1) :
    schedule.due ≤ time ∧ (schedule.next schedule.due).countUntil time = count := by
  rw [countUntil] at due
  rw [next_of_le (Nat.le_refl _)]
  split at due
  · exact absurd due (Nat.succ_ne_zero count).symm
  case isFalse reached =>
    have quotient : (time - schedule.due) / schedule.period = count := Nat.succ.inj due
    refine ⟨Nat.not_lt.1 reached, ?_⟩
    rw [countUntil, ← quotient]
    simp only
    split
    case isTrue early => rw [Nat.div_eq_of_lt (by omega)]
    case isFalse late =>
      rw [Nat.div_eq_sub_div positive (by omega : schedule.period ≤ time - schedule.due),
        Nat.sub_sub]

end FlushSchedule

/-- What is done with a scheduled grouper between its start and its stop. -/
inductive ScheduleUse where
  | add (alert : Alert)
  | advance (span : Nat)

def ScheduledGrouper.use {σ : Type} (service : ScheduledGrouper σ) :
    ScheduleUse → ScheduledGrouper σ
  | .add alert => service.add alert
  | .advance span => service.advance span

namespace RunningSchedule

variable {σ : Type} {service : ScheduledGrouper σ} {state : RunningSchedule σ}

/-- A schedule at work is where the schedule of a scheduled grouper is between two flushes,
whatever the clocks show. -/
structure Shows (state : RunningSchedule σ) (service : ScheduledGrouper σ) : Prop where
  grouper_eq : state.grouper = service.grouper
  sinkState_eq : state.sinkState = service.sinkState
  schedule_eq : service.schedule = some state.schedule
  ahead : state.now ≤ state.schedule.due
  positive : 0 < state.schedule.period
  idle : state.phase.isIdle = true
  going : state.stop = none

theorem exists_run_elapsed (sink : Sink σ) (going : state.stop = none) {time : Nat}
    (ahead : state.now ≤ time) : ∃ trace, Run sink state trace { state with now := time } := by
  have elapsed : state.elapse (time - state.now) = { state with now := time } := by
    rw [elapse, going, Nat.add_sub_cancel' ahead]
    rfl
  rw [← elapsed]
  exact ⟨_, .single (.elapse _ fun prompt => prompt.1 going)⟩

/-- An idle task waits for the next tick once the delay is over. -/
theorem exists_run_waiting (sink : Sink σ) (state : RunningSchedule σ)
    (idle : state.phase.isIdle = true) (reached : state.schedule.due ≤ state.now) :
    ∃ trace, Run sink state trace { state with phase := .waiting } := by
  cases phase : state.phase with
  | delaying => exact ⟨_, .single (.endDelay phase reached)⟩
  | waiting =>
    rw [← phase]
    exact ⟨[], .refl⟩
  | flushing _ | ended => simp [phase, SchedulePhase.isIdle] at idle

/-- The flush that is due next can be carried out when it is due. -/
theorem Shows.exists_run_flush (shows : state.Shows service) :
    ∃ trace next, Run service.sink state trace next ∧ next.now = state.schedule.due ∧
      next.schedule = state.schedule.next state.schedule.due ∧
      next.Shows { service.flush with
        schedule := service.schedule.map fun schedule => schedule.next schedule.due } := by
  rcases exists_run_elapsed service.sink shows.going shows.ahead with ⟨first, elapsed⟩
  rcases exists_run_waiting service.sink { state with now := state.schedule.due }
    shows.idle (Nat.le_refl _) with ⟨second, waits⟩
  have begins := (elapsed.trans waits).step (.begin rfl (Nat.le_refl _) shows.going)
  rcases exists_run_flushed service.sink { state with
    now := state.schedule.due
    phase := .flushing .started
    schedule := state.schedule.next state.schedule.due } rfl with ⟨third, flushes⟩
  refine ⟨_, _, begins.trans flushes, rfl, rfl, ?_⟩
  constructor
  case grouper_eq => rw [shows.grouper_eq, shows.sinkState_eq]; rfl
  case sinkState_eq => rw [shows.grouper_eq, shows.sinkState_eq]; rfl
  case schedule_eq => rw [shows.schedule_eq]; rfl
  case ahead =>
    rw [FlushSchedule.next_of_le (Nat.le_refl _)]
    exact Nat.le_add_right _ _
  case positive =>
    rw [FlushSchedule.next_of_le (Nat.le_refl _)]
    exact shows.positive
  case idle => rfl
  case going => exact shows.going

/-- The flushes that are due until some time can be carried out, each when it is due. -/
theorem Shows.exists_run_flushTimes (shows : state.Shows service) {time : Nat}
    (ahead : state.now ≤ time) {count : Nat} (due : state.schedule.countUntil time = count) :
    ∃ trace next, Run service.sink state trace next ∧ next.now = time ∧
      next.Shows (service.flushTimes count) ∧ (service.flushTimes count).sink = service.sink := by
  induction count generalizing state service with
  | zero =>
    rcases exists_run_elapsed service.sink shows.going ahead with ⟨trace, elapsed⟩
    have early : time ≤ state.schedule.due := by
      rw [FlushSchedule.countUntil] at due
      split at due
      · omega
      · simp at due
    exact ⟨trace, _, elapsed, rfl, { shows with ahead := early }, rfl⟩
  | succ count ih =>
    rcases FlushSchedule.countUntil_next shows.positive due with ⟨reached, later⟩
    rcases shows.exists_run_flush with ⟨first, flushed, flushes, now, schedule, showsFlushed⟩
    rw [← schedule] at later
    rw [← now] at reached
    rcases ih showsFlushed reached later with ⟨second, next, ran, arrives, showsNext⟩
    exact ⟨_, next, flushes.trans ran, arrives, showsNext⟩

/-! ## One use after the other -/

theorem Shows.start {grouper : Grouper} {now : Nat} {schedule : FlushSchedule}
    (starts : FlushSchedule.startAt? grouper.frequency now = some schedule) (sink : Sink σ)
    (sinkState : σ) :
    (start grouper sinkState now schedule).Shows
      { grouper, sink, sinkState, now, wasStarted := true, schedule := some schedule } where
  grouper_eq := rfl
  sinkState_eq := rfl
  schedule_eq := rfl
  ahead := (FlushSchedule.startAt?_eq_some starts).1
  positive := (FlushSchedule.startAt?_eq_some starts).2
  idle := rfl
  going := rfl

theorem Shows.exists_run_add (shows : state.Shows service) (alert : Alert) :
    ∃ trace next, Run service.sink state trace next ∧ next.now = state.now ∧
      next.Shows (service.add alert) := by
  have counted : Run service.sink state _ _ := .single (.countStranded alert)
  have buffered := counted.step (.process (service.grouper.rules.keyOf alert) alert)
  refine ⟨_, _, buffered, rfl, { shows with grouper_eq := ?_ }⟩
  rw [shows.grouper_eq]
  rfl

/-- What becomes due while time passes can be flushed meanwhile. -/
theorem Shows.exists_run_advance (shows : state.Shows service) (now : state.now = service.now)
    (span : Nat) :
    ∃ trace next, Run service.sink state trace next ∧ next.now = (service.advance span).now ∧
      next.Shows (service.advance span) ∧ (service.advance span).sink = service.sink := by
  have ahead : state.now ≤ service.now + span := now ▸ Nat.le_add_right _ _
  rcases shows.exists_run_flushTimes ahead rfl with
    ⟨trace, next, ran, arrives, showsFlushed, sameSink⟩
  have advanced : service.advance span = { service.flushTimes
      (state.schedule.countUntil (service.now + span)) with now := service.now + span } := by
    rw [ScheduledGrouper.advance, shows.schedule_eq]
  rw [advanced]
  exact ⟨trace, next, ran, arrives, { showsFlushed with }, sameSink⟩

/-- A schedule that is told to stop between two flushes ends at once. -/
theorem Shows.exists_run_stop (shows : state.Shows service) (timeout : Nat) :
    ∃ trace next, Run service.sink (state.cancel timeout) trace next ∧
      next.answer? = some true ∧ next.now = state.now ∧
      next.grouper = service.stop.grouper ∧ next.sinkState = service.stop.sinkState := by
  have left : Run service.sink (state.cancel timeout) _ _ :=
    .single (.leave shows.idle (Option.some_ne_none _))
  exact ⟨_, _, left.step (.join rfl rfl rfl), rfl, rfl, shows.grouper_eq, shows.sinkState_eq⟩

theorem Shows.exists_run_uses (shows : state.Shows service) (now : state.now = service.now)
    (uses : List ScheduleUse) :
    ∃ trace next, Run service.sink state trace next ∧
      next.Shows (uses.foldl ScheduledGrouper.use service) ∧
      (uses.foldl ScheduledGrouper.use service).sink = service.sink := by
  induction uses generalizing state service with
  | nil => exact ⟨[], state, .refl, shows, rfl⟩
  | cons use rest ih =>
    have first : ∃ trace next, Run service.sink state trace next ∧
        next.now = (service.use use).now ∧ next.Shows (service.use use) ∧
        (service.use use).sink = service.sink := by
      cases use with
      | add alert =>
        rcases shows.exists_run_add alert with ⟨trace, next, ran, same, showsNext⟩
        exact ⟨trace, next, ran, same.trans now, showsNext, rfl⟩
      | advance span => exact shows.exists_run_advance now span
    rcases first with ⟨earlier, middle, ran, sameTime, showsMiddle, sameSink⟩
    rcases ih showsMiddle sameTime with ⟨later, next, ranOn, showsNext, sinkNext⟩
    rw [sameSink] at ranOn sinkNext
    exact ⟨_, next, ran.trans ranOn, showsNext, sinkNext⟩

/-- Whatever a scheduled grouper does, started at some time, used and at last stopped, a
schedule at work can do that is started then and told to stop in the end. -/
theorem exists_run_of_uses {service started : ScheduledGrouper σ} {schedule : FlushSchedule}
    (starts : service.start = .ok started) (scheduled : started.schedule = some schedule)
    (uses : List ScheduleUse) (timeout : Nat) :
    let used := uses.foldl ScheduledGrouper.use started
    ∃ earlier before later after,
      Run service.sink (RunningSchedule.start service.grouper service.sinkState service.now schedule)
        earlier before ∧
      Run service.sink (before.cancel timeout) later after ∧
      after.answer? = some true ∧ after.grouper = used.stop.grouper ∧
      after.sinkState = used.stop.sinkState := by
  intro used
  rw [ScheduledGrouper.start] at starts
  split at starts
  · cases starts
  cases starts
  have shows := Shows.start scheduled service.sink service.sinkState
  rw [← scheduled] at shows
  rcases shows.exists_run_uses rfl uses with ⟨earlier, before, ran, showsUsed, sameSink⟩
  rcases showsUsed.exists_run_stop timeout with ⟨later, after, ranOn, answer, -, result⟩
  rw [sameSink] at ranOn
  exact ⟨earlier, before, later, after, ran, ranOn, answer, result⟩

end RunningSchedule

end Alerting
