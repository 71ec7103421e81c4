import Alerting.Grouper

/-!
# Flush schedules

A schedule begins its first flush when the clock shows a multiple of the frequency, and
the following ones a period apart. When a flush takes so long that the next one is late
by more than the tolerance, the schedule moves: the one after it is due a full period
after the late one began. Times are nanoseconds since the epoch.
-/

namespace Alerting

/-- A running schedule. -/
structure FlushSchedule where
  /-- The time between two flushes, in nanoseconds. -/
  period : Nat
  /-- When the next flush is due. -/
  due : Nat
  deriving DecidableEq, Repr

namespace FlushSchedule

/-- How late a flush may begin without moving the schedule. -/
def tolerance : Nat := 5 * Duration.nanosecondsPerMillisecond

/-- The schedule that is started at a time, unless the first delay cannot be computed. -/
def startAt? (frequency : FlushFrequency) (now : Nat) : Option FlushSchedule :=
  let nowInMilliseconds := UInt64.ofNat (now / Duration.nanosecondsPerMillisecond)
  (firstDelay? nowInMilliseconds frequency.millisecondWord).map fun delay =>
    { period :=
        frequency.duration.seconds.toNat * Duration.nanosecondsPerSecond +
          frequency.duration.nanoseconds.toNat
      due := now + delay.toNat * Duration.nanosecondsPerMillisecond }

/-- When the next flush begins, if nothing is in its way from `ready` on. -/
def beginning (schedule : FlushSchedule) (ready : Nat) : Nat := max schedule.due ready

/-- The schedule after the flush that began at `beginning ready`. -/
def next (schedule : FlushSchedule) (ready : Nat) : FlushSchedule :=
  if schedule.due + tolerance < ready then { schedule with due := ready + schedule.period }
  else { schedule with due := schedule.due + schedule.period }

/-- When flushes begin that take the given times, one after the other. -/
def beginnings (schedule : FlushSchedule) (ready : Nat) : List Nat → List Nat
  | [] => []
  | duration :: rest =>
    let start := schedule.beginning ready
    start :: beginnings (schedule.next ready) (start + duration) rest

/-- How many flushes that take no time begin up to and including a time. -/
def countUntil (schedule : FlushSchedule) (time : Nat) : Nat :=
  if time < schedule.due then 0 else (time - schedule.due) / schedule.period + 1

end FlushSchedule

/-- Why a schedule was not started. -/
inductive ScheduleError where
  | alreadyStarted
  deriving DecidableEq, Repr

def ScheduleError.message : ScheduleError → String
  | .alreadyStarted => "group-by processor already started"

/-- A grouper that is flushed into a sink by at most one schedule in its lifetime. -/
structure ScheduledGrouper (σ : Type) where
  grouper : Grouper
  sink : Sink σ
  sinkState : σ
  now : Nat
  wasStarted : Bool := false
  schedule : Option FlushSchedule := none

namespace ScheduledGrouper

variable {σ : Type}

def start (service : ScheduledGrouper σ) : Except ScheduleError (ScheduledGrouper σ) :=
  if service.wasStarted then .error .alreadyStarted
  else .ok { service with
    wasStarted := true
    schedule := FlushSchedule.startAt? service.grouper.frequency service.now }

/-- Ends the schedule. What is buffered stays so. -/
def stop (service : ScheduledGrouper σ) : ScheduledGrouper σ := { service with schedule := none }

def add (service : ScheduledGrouper σ) (alert : Alert) : ScheduledGrouper σ :=
  { service with grouper := service.grouper.add alert }

def flush (service : ScheduledGrouper σ) : ScheduledGrouper σ :=
  let (_, grouper, sinkState) := service.grouper.flush service.sink service.sinkState
  { service with grouper, sinkState }

/-- Flushes that begin on time and take no time. -/
def flushTimes : Nat → ScheduledGrouper σ → ScheduledGrouper σ
  | 0, service => service
  | count + 1, service =>
    flushTimes count { service.flush with
      schedule := service.schedule.map fun schedule => schedule.next schedule.due }

/-- Lets time pass; what becomes due meanwhile is flushed. -/
def advance (service : ScheduledGrouper σ) (span : Nat) : ScheduledGrouper σ :=
  let now := service.now + span
  let count := match service.schedule with
    | none => 0
    | some schedule => schedule.countUntil now
  { flushTimes count service with now }

end ScheduledGrouper

end Alerting
