import Alerting.Flush.Progress
import Alerting.Flush.Schedule

/-!
# Schedules at work

A schedule has a task of its own. It waits for the first delay and from then on for one tick
after the other, and at each tick it has a flush carried out, which takes out the buffer and
submits group by group. Meanwhile alerts go on being buffered, at any time, and a flush takes
whatever time the sink takes. A schedule that is told to stop ends when it next looks, and
whoever told it waits for that, but not longer than for a given time.

A flush begins when the task takes a tick, and it may then be a while until the buffer is
taken out. Of the order and the times of all other steps one thing is assumed: a task that
only has to notice that it was stopped, or that what it waited for is over, does so before
time passes.
-/

namespace Alerting

/-- Where the task of a schedule stands. -/
inductive SchedulePhase where
  | delaying
  /-- The next tick is waited for. -/
  | waiting
  | flushing (progress : FlushProgress)
  | ended

/-- Somebody who told a schedule to stop, and waits for it until the deadline. -/
structure StopRequest where
  deadline : Nat
  /-- Whether the schedule ended in time; none as long as it is waited for. -/
  answer : Option Bool := none

/-- A schedule at work, with the grouper and the sink that it is for. -/
structure RunningSchedule (σ : Type) where
  grouper : Grouper
  sinkState : σ
  now : Nat
  schedule : FlushSchedule
  phase : SchedulePhase := .delaying
  stop : Option StopRequest := none

/-- What can be noticed of a step. -/
inductive ScheduleEvent where
  | processed (key : GroupKey) (alert : Alert)
  | began
  | took (groups : List AlertGroup)
  | submitted (group : AlertGroup) (submission : Submission)
  | finished
  | nothing

/-- What could be noticed, and when. -/
abbrev ScheduleTrace := List (Nat × ScheduleEvent)

namespace ScheduleEvent

def arrival? : ScheduleEvent → Option (GroupKey × Alert)
  | .processed key alert => some (key, alert)
  | .began | .took _ | .submitted _ _ | .finished | .nothing => none

def taken : ScheduleEvent → List AlertGroup
  | .took groups => groups
  | .processed _ _ | .began | .submitted _ _ | .finished | .nothing => []

def submission? : ScheduleEvent → Option (AlertGroup × Submission)
  | .submitted group submission => some (group, submission)
  | .processed _ _ | .began | .took _ | .finished | .nothing => none

/-- The event is about no alert and no group. -/
def isSilent : ScheduleEvent → Bool
  | .began | .finished | .nothing => true
  | .processed _ _ | .took _ | .submitted _ _ => false

end ScheduleEvent

namespace ScheduleTrace

/-- The alerts that were processed, under their keys. -/
def arrivals (trace : ScheduleTrace) : List (GroupKey × Alert) :=
  trace.filterMap fun entry => entry.2.arrival?

/-- The groups that flushes took out of the buffer. -/
def taken (trace : ScheduleTrace) : List AlertGroup := trace.flatMap fun entry => entry.2.taken

/-- The groups that were handed to the sink, with its answers. -/
def submissions (trace : ScheduleTrace) : List (AlertGroup × Submission) :=
  trace.filterMap fun entry => entry.2.submission?

end ScheduleTrace

namespace SchedulePhase

def isFlushing : SchedulePhase → Bool
  | .flushing _ => true
  | .delaying | .waiting | .ended => false

/-- The task waits for a time and for a stop, whichever comes first. -/
def isIdle : SchedulePhase → Bool
  | .delaying | .waiting => true
  | .flushing _ | .ended => false

/-- The groups that were taken out and have still to be submitted. -/
def remaining : SchedulePhase → List AlertGroup
  | .flushing progress => progress.remaining
  | .delaying | .waiting | .ended => []

end SchedulePhase

/-- Once the deadline has passed, it is too late. -/
def StopRequest.atTime (request : StopRequest) (now : Nat) : StopRequest :=
  if request.answer = none ∧ request.deadline < now then { request with answer := some false }
  else request

namespace RunningSchedule

variable {σ : Type}

/-- A schedule that was just started. -/
def start (grouper : Grouper) (sinkState : σ) (now : Nat) (schedule : FlushSchedule) :
    RunningSchedule σ where
  grouper := grouper
  sinkState := sinkState
  now := now
  schedule := schedule

/-- Tells a schedule to stop and begins to wait for it. -/
def cancel (state : RunningSchedule σ) (timeout : Nat) : RunningSchedule σ :=
  { state with stop := some { deadline := state.now + timeout } }

/-- What became of waiting for the schedule to end; none as long as it goes on. -/
def answer? (state : RunningSchedule σ) : Option Bool := state.stop.bind StopRequest.answer

/-- Time passes. -/
def elapse (state : RunningSchedule σ) (span : Nat) : RunningSchedule σ :=
  { state with
    now := state.now + span
    stop := state.stop.map fun request => request.atTime (state.now + span) }

/-- Something is about to be noticed: that the schedule was stopped, or that it has ended. -/
def IsPrompt (state : RunningSchedule σ) : Prop :=
  state.stop ≠ none ∧ (state.phase.isIdle = true ∨ state.phase = .ended ∧ state.answer? = none)

/-- One step: of the task, of its flush, of who waits for it, or of who buffers alerts. -/
inductive Step (sink : Sink σ) (state : RunningSchedule σ) :
    ScheduleEvent → RunningSchedule σ → Prop where
  | process (key : GroupKey) (alert : Alert) :
      Step sink state (.processed key alert)
        { state with grouper := state.grouper.addUnder key alert }
  /-- An alert that comes without rules is counted before it is buffered. -/
  | countStranded (alert : Alert) :
      Step sink state .nothing
        { state with grouper := state.grouper.countStranded alert }
  /-- The delay is over. The task may take note of this even if it was stopped. -/
  | endDelay (delaying : state.phase = .delaying) (reached : state.schedule.due ≤ state.now) :
      Step sink state .nothing { state with phase := .waiting }
  | begin (waiting : state.phase = .waiting) (due : state.schedule.due ≤ state.now)
      (going : state.stop = none) :
      Step sink state .began
        { state with
          phase := .flushing .started
          schedule := state.schedule.next state.now }
  /-- The queues come out of the buffer in any order. -/
  | take {queues : List (GroupKey × List Alert)} (started : state.phase = .flushing .started)
      (order : queues.Perm state.grouper.buffer.queues) :
      Step sink state (.took (state.grouper.listing queues).groups)
        { state with
          phase := .flushing (.submitting (state.grouper.listing queues).groups [])
          grouper := state.grouper.emptied }
  | submit {group : AlertGroup} {rest : List AlertGroup}
      {submissions : List (AlertGroup × Submission)}
      (underWay : state.phase = .flushing (.submitting (group :: rest) submissions)) :
      Step sink state (.submitted group (sink group state.sinkState).1)
        { state with
          phase := .flushing
            (.submitting rest (submissions ++ [(group, (sink group state.sinkState).1)]))
          grouper := state.grouper.countSubmission (sink group state.sinkState).1
          sinkState := (sink group state.sinkState).2 }
  | finish {submissions : List (AlertGroup × Submission)}
      (underWay : state.phase = .flushing (.submitting [] submissions)) :
      Step sink state .finished
        { state with
          phase := .waiting
          grouper := state.grouper.countGroups submissions.length }
  | leave (idle : state.phase.isIdle = true) (stopped : state.stop ≠ none) :
      Step sink state .nothing { state with phase := .ended }
  | join {request : StopRequest} (ended : state.phase = .ended)
      (stop : state.stop = some request) (unanswered : request.answer = none) :
      Step sink state .nothing
        { state with stop := some { request with answer := some true } }
  | elapse (span : Nat) (quiet : ¬ state.IsPrompt) :
      Step sink state .nothing (state.elapse span)

/-- The steps from one state to another, and what could be noticed of them. -/
inductive Run (sink : Sink σ) (first : RunningSchedule σ) :
    ScheduleTrace → RunningSchedule σ → Prop where
  | refl : Run sink first [] first
  | step {trace : ScheduleTrace} {state next : RunningSchedule σ} {event : ScheduleEvent}
      (before : Run sink first trace state) (step : Step sink state event next) :
      Run sink first (trace ++ [(next.now, event)]) next

end RunningSchedule

end Alerting
