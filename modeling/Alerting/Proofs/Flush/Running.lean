import Alerting.Flush.Running
import Alerting.Proofs.Flush.Isolation
import Alerting.Proofs.Flush.Progress

/-!
# The accounts of a schedule at work

Of the alerts that came, the first ones are in the groups that flushes took out, and the others
are buffered. Of the groups that were taken out, the first ones were submitted, and the others
remain of the flush under way. Every step of a schedule keeps these accounts.
-/

namespace Alerting

namespace ScheduleTrace

section Append

variable (first second : ScheduleTrace)

@[simp] theorem arrivals_append :
    arrivals (first ++ second) = arrivals first ++ arrivals second := List.filterMap_append

@[simp] theorem taken_append : taken (first ++ second) = taken first ++ taken second :=
  List.flatMap_append

@[simp] theorem submissions_append :
    submissions (first ++ second) = submissions first ++ submissions second :=
  List.filterMap_append

end Append

section Singleton

variable (time : Nat) (event : ScheduleEvent)

@[simp] theorem arrivals_singleton : arrivals [(time, event)] = event.arrival?.toList := by
  cases event <;> rfl

@[simp] theorem taken_singleton : taken [(time, event)] = event.taken := List.append_nil _

@[simp] theorem submissions_singleton :
    submissions [(time, event)] = event.submission?.toList := by
  cases event <;> rfl

end Singleton

end ScheduleTrace

namespace SchedulePhase

theorem remaining_of_isIdle {phase : SchedulePhase} (idle : phase.isIdle = true) :
    phase.remaining = [] := by
  cases phase with
  | delaying | waiting => rfl
  | flushing _ | ended => simp [isIdle] at idle

theorem isFlushing_of_isIdle {phase : SchedulePhase} (idle : phase.isIdle = true) :
    phase.isFlushing = false := by
  cases phase with
  | delaying | waiting => rfl
  | flushing _ | ended => simp [isIdle] at idle

theorem isIdle_or_eq_ended {phase : SchedulePhase} (resting : ¬ phase.isFlushing = true) :
    phase.isIdle = true ∨ phase = .ended := by
  cases phase with
  | delaying | waiting => exact .inl rfl
  | ended => exact .inr rfl
  | flushing _ => exact absurd rfl resting

end SchedulePhase

namespace RunningSchedule

variable {σ : Type} {sink : Sink σ} {first state next : RunningSchedule σ}

theorem Run.trans {earlier later : ScheduleTrace} (before : Run sink first earlier state)
    (after : Run sink state later next) : Run sink first (earlier ++ later) next := by
  induction after with
  | refl => rwa [List.append_nil]
  | step _ step ih =>
    rw [← List.append_assoc]
    exact ih.step step

theorem Run.single {event : ScheduleEvent} (step : Step sink state event next) :
    Run sink state [(next.now, event)] next :=
  .step .refl step

end RunningSchedule

/-! ## Accounts of alerts and groups -/

/-- The alerts of the groups that have a key. -/
def alertsUnder (key : GroupKey) (groups : List AlertGroup) : List Alert :=
  groups.flatMap fun group => if group.key = key then group.alerts else []

theorem alertsUnder_append (key : GroupKey) (first second : List AlertGroup) :
    alertsUnder key (first ++ second) = alertsUnder key first ++ alertsUnder key second :=
  List.flatMap_append

namespace Grouper

variable (grouper : Grouper)

@[simp] theorem buffer_countSubmission (submission : Submission) :
    (grouper.countSubmission submission).buffer = grouper.buffer := by
  rw [countSubmission]
  split <;> rfl

variable {grouper}

/-- What is buffered under a key is in the group of the key. -/
theorem alertsUnder_groups {arrivals : List (GroupKey × Alert)}
    (holds : grouper.buffer.Holds arrivals) (key : GroupKey) :
    alertsUnder key grouper.groups = valuesOf key arrivals := by
  rw [alertsUnder, groups, List.flatMap_map, ← holds.queue_eq]
  exact Buffer.flatMap_queues holds.consistent.distinct key

end Grouper

namespace RunningSchedule

variable {σ : Type}

open ScheduleTrace

/-- The accounts of a schedule that had some alerts to begin with. Of the alerts that came,
the first ones are in the groups that flushes took out and the others are buffered. Of the
groups that were taken out, the first ones were submitted and the others remain. -/
structure Accounts (pending : List (GroupKey × Alert)) (trace : ScheduleTrace)
    (state : RunningSchedule σ) : Prop where
  alerts : ∃ gone waiting, pending ++ arrivals trace = gone ++ waiting ∧
    (∀ key, alertsUnder key (taken trace) = valuesOf key gone) ∧
    state.grouper.buffer.Holds waiting
  groups : (submissions trace).map Prod.fst ++ state.phase.remaining = taken trace

namespace Accounts

variable {sink : Sink σ} {pending : List (GroupKey × Alert)} {trace : ScheduleTrace}
  {state next : RunningSchedule σ}

theorem start {grouper : Grouper} (holds : grouper.buffer.Holds pending) (sinkState : σ)
    (now : Nat) (schedule : FlushSchedule) :
    Accounts pending [] (start grouper sinkState now schedule) :=
  ⟨⟨[], pending, List.append_nil _, fun _ => rfl, holds⟩, rfl⟩

/-- Only the buffer and what remains of a flush count. -/
theorem silent (accounts : Accounts pending trace state)
    (buffer : next.grouper.buffer = state.grouper.buffer)
    (remaining : next.phase.remaining = state.phase.remaining) {event : ScheduleEvent}
    (isSilent : event.isSilent = true) (time : Nat) :
    Accounts pending (trace ++ [(time, event)]) next := by
  rcases accounts with ⟨alerts, groups⟩
  rw [← buffer] at alerts
  rw [← remaining] at groups
  have none : event.arrival? = none ∧ event.taken = [] ∧ event.submission? = none := by
    cases event <;> simp_all [ScheduleEvent.isSilent, ScheduleEvent.arrival?,
      ScheduleEvent.taken, ScheduleEvent.submission?]
  exact ⟨by simpa [none] using alerts, by simpa [none] using groups⟩

/-- Whatever step is taken, the accounts hold after it. -/
theorem step (accounts : Accounts pending trace state) {event : ScheduleEvent}
    (step : Step sink state event next) (time : Nat) :
    Accounts pending (trace ++ [(time, event)]) next := by
  cases step
  case process key alert =>
    rcases accounts.alerts with ⟨gone, waiting, split, taken, holds⟩
    refine ⟨⟨gone, waiting ++ [(key, alert)], ?_, ?_, holds.add key alert⟩, ?_⟩
    · simp [ScheduleEvent.arrival?, ← List.append_assoc, split]
    · simpa [ScheduleEvent.taken] using taken
    · simpa [ScheduleEvent.submission?, ScheduleEvent.taken] using accounts.groups
  case take queues started order =>
    rcases accounts.alerts with ⟨gone, waiting, split, taken, holds⟩
    have listed : (state.grouper.listing queues).buffer.Holds waiting := holds.listing order
    refine ⟨⟨gone ++ waiting, [], ?_, fun key => ?_, .empty⟩, ?_⟩
    · simpa [ScheduleEvent.arrival?] using split
    · rw [taken_append, taken_singleton, ScheduleEvent.taken, alertsUnder_append, taken key,
        Grouper.alertsUnder_groups listed, valuesOf_append]
    · have groups := accounts.groups
      rw [started] at groups
      simpa [ScheduleEvent.submission?, ScheduleEvent.taken, SchedulePhase.remaining,
        FlushProgress.remaining] using groups
  case submit group rest submissions underWay =>
    have groups := accounts.groups
    rw [underWay] at groups
    constructor
    · simpa [ScheduleEvent.arrival?, ScheduleEvent.taken] using accounts.alerts
    · simpa [ScheduleEvent.submission?, ScheduleEvent.taken, SchedulePhase.remaining,
        FlushProgress.remaining] using groups
  -- The other steps concern neither alerts nor groups.
  all_goals apply accounts.silent
  case countStranded.buffer alert => rw [Grouper.buffer_countStranded]
  case endDelay.remaining delaying _ => rw [delaying]; rfl
  case begin.remaining waiting _ _ => rw [waiting]; rfl
  case finish.remaining underWay => rw [underWay]; rfl
  case leave.remaining idle _ => rw [SchedulePhase.remaining_of_isIdle idle]; rfl
  all_goals rfl

theorem run (accounts : Accounts pending trace state) {later : ScheduleTrace}
    (ran : Run sink state later next) : Accounts pending (trace ++ later) next := by
  induction ran with
  | refl => rwa [List.append_nil]
  | step _ step ih =>
    rw [← List.append_assoc]
    exact ih.step step _

end Accounts

/-! ## Flushes that nothing comes between -/

section Flush

variable (sink : Sink σ)

/-- A flush can submit what remains of it, and it counts what becomes of each group. -/
theorem exists_run_submitted (state : RunningSchedule σ) (remaining : List AlertGroup)
    (submissions : List (AlertGroup × Submission)) (grouper : Grouper) (sinkState : σ) :
    let submitted := submitAll sink remaining sinkState
    ∃ trace, Run sink
      { state with phase := .flushing (.submitting remaining submissions), grouper, sinkState }
      trace
      { state with
        phase := .flushing (.submitting [] (submissions ++ submitted.1))
        grouper := submitted.1.foldl (fun grouper entry => grouper.countSubmission entry.2) grouper
        sinkState := submitted.2 } := by
  induction remaining generalizing submissions grouper sinkState with
  | nil => exact ⟨[], (List.append_nil submissions).symm ▸ .refl⟩
  | cons group rest ih =>
    let submission := (sink group sinkState).1
    rcases ih (submissions ++ [(group, submission)]) (grouper.countSubmission submission)
      (sink group sinkState).2 with ⟨trace, ran⟩
    rw [List.append_assoc] at ran
    exact ⟨_, (Run.single (.submit rfl)).trans ran⟩

/-- A flush that has begun can be carried out as the flush of a grouper. -/
theorem exists_run_flushed (state : RunningSchedule σ) (started : state.phase = .flushing .started) :
    let flushed := state.grouper.flush sink state.sinkState
    ∃ trace, Run sink state trace
      { state with phase := .waiting, grouper := flushed.2.1, sinkState := flushed.2.2 } := by
  intro flushed
  rcases exists_run_submitted sink state state.grouper.groups [] state.grouper.emptied
    state.sinkState with ⟨trace, ran⟩
  have taken : Run sink state _ _ := (Run.single (.take started (.refl _))).trans ran
  have finished := taken.step (.finish rfl)
  rw [show flushed = _ from Grouper.flush_eq _ _ _]
  exact ⟨_, finished⟩

end Flush

end RunningSchedule

end Alerting
