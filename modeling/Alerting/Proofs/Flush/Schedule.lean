import Alerting.Flush.Schedule

/-!
# When a schedule flushes

A schedule begins its first flush when the clock next shows a multiple of the frequency. From
then on it counts periods, not multiples: as long as no flush takes longer than a period, the
flushes are a period apart and stay on multiples, but a flush that makes the next one late by
more than the tolerance moves all that follow.

This is about frequencies of whole milliseconds. The first delay counts whole milliseconds only
while the period counts all of the span, so a frequency with a fraction of a millisecond leaves
its multiples without any slow flush.
-/

namespace Alerting

/-! ## Frequencies -/

namespace Duration

/-- A number of milliseconds splits into seconds and a rest, both of which fit their words. -/
theorem toNat_ofMilliseconds (milliseconds : UInt64) :
    (ofMilliseconds milliseconds).seconds.toNat = milliseconds.toNat / 1000 ∧
      (ofMilliseconds milliseconds).nanoseconds.toNat =
        milliseconds.toNat % 1000 * nanosecondsPerMillisecond := by
  have bound := milliseconds.toNat_lt
  have small : milliseconds.toNat % 1000 < 1000 := Nat.mod_lt _ (by decide)
  simp only [ofMilliseconds, UInt64.toNat_ofNat', UInt32.toNat_ofNat', nanosecondsPerMillisecond]
  exact ⟨Nat.mod_eq_of_lt (by omega), Nat.mod_eq_of_lt (by omega)⟩

theorem milliseconds_ofMilliseconds (milliseconds : UInt64) :
    (ofMilliseconds milliseconds).milliseconds = milliseconds.toNat := by
  rcases toNat_ofMilliseconds milliseconds with ⟨seconds, nanoseconds⟩
  rw [Duration.milliseconds, seconds, nanoseconds, Nat.mul_div_cancel _ (by decide)]
  omega

/-- A number of milliseconds is that span, with nothing beside it. -/
theorem nanoseconds_ofMilliseconds (milliseconds : UInt64) :
    (ofMilliseconds milliseconds).seconds.toNat * nanosecondsPerSecond +
        (ofMilliseconds milliseconds).nanoseconds.toNat =
      milliseconds.toNat * nanosecondsPerMillisecond := by
  rcases toNat_ofMilliseconds milliseconds with ⟨seconds, nanoseconds⟩
  rw [seconds, nanoseconds]
  simp only [nanosecondsPerSecond, nanosecondsPerMillisecond]
  omega

end Duration

namespace FlushFrequency

theorem ofMilliseconds_eq_ok {milliseconds : UInt64} {frequency : FlushFrequency} :
    ofMilliseconds milliseconds = .ok frequency ↔
      milliseconds ≠ 0 ∧ frequency.duration = .ofMilliseconds milliseconds := by
  rcases frequency with ⟨duration, positive⟩
  rw [ofMilliseconds, ofDuration]
  split
  case isTrue zero =>
    rw [Duration.milliseconds_ofMilliseconds] at zero
    have zero : milliseconds = 0 := UInt64.toNat_inj.1 (zero.trans UInt64.toNat_zero.symm)
    simp [zero]
  case isFalse nonzero =>
    rw [Duration.milliseconds_ofMilliseconds] at nonzero
    have nonzero : milliseconds ≠ 0 := fun zero => nonzero (by rw [zero]; rfl)
    simp [nonzero, eq_comm]

/-- The clock shows a multiple of the frequency, in whole milliseconds. -/
def IsBoundary (frequency : FlushFrequency) (time : Nat) : Prop :=
  time / Duration.nanosecondsPerMillisecond % frequency.milliseconds = 0

instance (frequency : FlushFrequency) (time : Nat) : Decidable (frequency.IsBoundary time) :=
  inferInstanceAs (Decidable (_ = _))

end FlushFrequency

/-! ## The first delay -/

/-- The first delay leads to the next multiple, which lies ahead and at most a period away. -/
theorem firstDelay?_eq_some {now frequency delay : UInt64}
    (waits : firstDelay? now frequency = some delay) :
    0 < delay.toNat ∧ delay.toNat ≤ frequency.toNat ∧
      (now.toNat + delay.toNat) % frequency.toNat = 0 := by
  rw [firstDelay?, Option.ite_none_left_eq_some, Option.some.injEq] at waits
  rcases waits with ⟨nonzero, rfl⟩
  have positive : 0 < frequency.toNat :=
    Nat.pos_of_ne_zero fun zero => nonzero (UInt64.toNat_inj.1 zero)
  have past : now.toNat % frequency.toNat < frequency.toNat := Nat.mod_lt _ positive
  have value : (frequency - now % frequency).toNat =
      frequency.toNat - now.toNat % frequency.toNat := by
    rw [UInt64.toNat_sub_of_le _ _ (UInt64.le_iff_toNat_le.2 (by rw [UInt64.toNat_mod]; omega)),
      UInt64.toNat_mod]
  have split := Nat.div_add_mod now.toNat frequency.toNat
  have next : now.toNat + (frequency.toNat - now.toNat % frequency.toNat) =
      frequency.toNat * (now.toNat / frequency.toNat + 1) := by
    rw [Nat.mul_add]
    omega
  rw [value, next]
  exact ⟨by omega, by omega, Nat.mul_mod_right _ _⟩

namespace FlushSchedule

variable {schedule : FlushSchedule} {ready : Nat}

/-! ## One flush -/

theorem beginning_of_le (inTime : ready ≤ schedule.due) : schedule.beginning ready = schedule.due :=
  Nat.max_eq_left inTime

/-- A flush that can begin when it is due leaves the next one due a period later. -/
theorem next_of_le (inTime : ready ≤ schedule.due) :
    schedule.next ready = { schedule with due := schedule.due + schedule.period } := by
  rw [next, if_neg (by omega)]

/-- A schedule that is late by more than the tolerance goes on as if it had been due just now. -/
theorem beginnings_of_lt (late : schedule.due + tolerance < ready) (durations : List Nat) :
    schedule.beginnings ready durations =
      beginnings { schedule with due := ready } ready durations := by
  cases durations with
  | nil => rfl
  | cons duration rest =>
    have start : schedule.beginning ready = ready := Nat.max_eq_right (by omega)
    have moved : schedule.next ready = next { schedule with due := ready } ready := by
      rw [next, if_pos late, next_of_le (Nat.le_refl _)]
    rw [beginnings, beginnings, start, moved, beginning_of_le (Nat.le_refl _)]

/-! ## Runs of flushes -/

/-- So many flushes that begin when they are due, a period apart. -/
def onGrid (schedule : FlushSchedule) (count : Nat) : List Nat :=
  (List.range count).map fun index => schedule.due + index * schedule.period

theorem onGrid_succ (schedule : FlushSchedule) (count : Nat) :
    schedule.onGrid (count + 1) = schedule.due ::
      onGrid { schedule with due := schedule.due + schedule.period } count := by
  simp only [onGrid, List.range_succ_eq_map, List.map_cons, List.map_map]
  refine List.cons_eq_cons.2 ⟨by omega, List.map_congr_left fun index _ => ?_⟩
  simp only [Function.comp_apply, Nat.succ_mul]
  omega

/-- Flushes begin a period apart exactly if none but the last takes longer than a period. -/
theorem beginnings_eq_onGrid (inTime : ready ≤ schedule.due) {durations : List Nat} :
    schedule.beginnings ready durations = schedule.onGrid durations.length ↔
      ∀ duration ∈ durations.dropLast, duration ≤ schedule.period := by
  induction durations generalizing schedule ready with
  | nil => simp [beginnings, onGrid]
  | cons duration rest ih =>
    rw [beginnings, List.length_cons, onGrid_succ, beginning_of_le inTime, next_of_le inTime]
    cases rest with
    | nil => simp [beginnings, onGrid]
    | cons second rest =>
      rw [List.dropLast_cons_cons, List.forall_mem_cons, List.cons.injEq]
      by_cases brief : duration ≤ schedule.period
      · have inTime : schedule.due + duration ≤ schedule.due + schedule.period := by omega
        have later := @ih { schedule with due := schedule.due + schedule.period } _ inTime
        simpa [brief] using later
      · -- The second flush is late already.
        simp only [beginnings, beginning, List.length_cons, onGrid_succ, List.cons.injEq, brief,
          false_and, iff_false]
        omega

/-- A flush that takes longer than a period and the tolerance moves all that follow. -/
theorem beginnings_of_overrun (inTime : ready ≤ schedule.due) {duration : Nat}
    (overrun : schedule.period + tolerance < duration) {durations : List Nat}
    (brief : ∀ duration ∈ durations.dropLast, duration ≤ schedule.period) :
    schedule.beginnings ready (duration :: durations) =
      schedule.due :: onGrid { schedule with due := schedule.due + duration } durations.length := by
  have late : schedule.due + schedule.period + tolerance < schedule.due + duration := by omega
  rw [beginnings, beginning_of_le inTime, next_of_le inTime, beginnings_of_lt late]
  exact congrArg _ ((beginnings_eq_onGrid (Nat.le_refl _)).2 brief)

/-! ## Boundaries -/

/-- Times that are whole periods of so many milliseconds apart lie alike to the boundaries. -/
theorem isBoundary_add_mul_iff {frequency : FlushFrequency} {milliseconds : UInt64}
    (accepted : FlushFrequency.ofMilliseconds milliseconds = .ok frequency) (time index : Nat) :
    frequency.IsBoundary (time + index * (milliseconds.toNat * Duration.nanosecondsPerMillisecond)) ↔
      frequency.IsBoundary time := by
  have duration := (FlushFrequency.ofMilliseconds_eq_ok.1 accepted).2
  rw [FlushFrequency.IsBoundary, FlushFrequency.IsBoundary, FlushFrequency.milliseconds, duration,
    Duration.milliseconds_ofMilliseconds, ← Nat.mul_assoc,
    Nat.add_mul_div_right _ _ (by decide), Nat.add_mul_mod_self_right]

/-- A schedule with a frequency of whole milliseconds has a first flush, which is due on the
first boundary after the start. -/
theorem exists_startAt? {milliseconds : UInt64} {frequency : FlushFrequency}
    (accepted : FlushFrequency.ofMilliseconds milliseconds = .ok frequency) {now : Nat}
    (shown : now / Duration.nanosecondsPerMillisecond < UInt64.size) :
    ∃ schedule, startAt? frequency now = some schedule ∧
      schedule.period = milliseconds.toNat * Duration.nanosecondsPerMillisecond ∧
      now < schedule.due ∧ schedule.due ≤ now + schedule.period ∧
      frequency.IsBoundary schedule.due := by
  rcases FlushFrequency.ofMilliseconds_eq_ok.1 accepted with ⟨nonzero, duration⟩
  have word : frequency.millisecondWord = milliseconds := by
    rw [FlushFrequency.millisecondWord, FlushFrequency.milliseconds, duration,
      Duration.milliseconds_ofMilliseconds, UInt64.ofNat_toNat]
  let clock := UInt64.ofNat (now / Duration.nanosecondsPerMillisecond)
  have shows : clock.toNat = now / Duration.nanosecondsPerMillisecond :=
    UInt64.toNat_ofNat_of_lt' shown
  have waits : firstDelay? clock milliseconds = some (milliseconds - clock % milliseconds) :=
    if_neg nonzero
  rcases firstDelay?_eq_some waits with ⟨ahead, near, multiple⟩
  refine ⟨_, by rw [startAt?, word, waits]; rfl, ?_, ?_, ?_, ?_⟩
  · rw [duration]
    exact Duration.nanoseconds_ofMilliseconds milliseconds
  · simp only [Duration.nanosecondsPerMillisecond]
    omega
  · simp only [duration, Duration.nanoseconds_ofMilliseconds]
    exact Nat.add_le_add_left (Nat.mul_le_mul_right _ near) now
  · rw [FlushFrequency.IsBoundary, FlushFrequency.milliseconds, duration,
      Duration.milliseconds_ofMilliseconds, Nat.add_mul_div_right _ _ (by decide), ← shows]
    exact multiple

/--
A schedule with a frequency of whole milliseconds, started at any time that the clock can show.
Its first flush begins on the first boundary after the start. The flushes then begin a period
apart exactly if none but the last takes longer than a period, and all of them on boundaries.

Frequencies with a fraction of a millisecond are left out, since they leave the boundaries even
if no flush takes any time.
-/
theorem brief_flushes_begin_on_boundaries {milliseconds : UInt64} {frequency : FlushFrequency}
    (accepted : FlushFrequency.ofMilliseconds milliseconds = .ok frequency) {now : Nat}
    (shown : now / Duration.nanosecondsPerMillisecond < UInt64.size) :
    ∃ schedule, startAt? frequency now = some schedule ∧
      now < schedule.due ∧ schedule.due ≤ now + schedule.period ∧
      ∀ durations : List Nat,
        (schedule.beginnings now durations = schedule.onGrid durations.length ↔
          ∀ duration ∈ durations.dropLast, duration ≤ schedule.period) ∧
        ((∀ duration ∈ durations.dropLast, duration ≤ schedule.period) →
          ∀ start ∈ schedule.beginnings now durations, frequency.IsBoundary start) := by
  rcases exists_startAt? accepted shown with ⟨schedule, starts, period, ahead, near, boundary⟩
  refine ⟨schedule, starts, ahead, near, fun durations => ?_⟩
  have grid : schedule.beginnings now durations = schedule.onGrid durations.length ↔ _ :=
    beginnings_eq_onGrid (Nat.le_of_lt ahead)
  refine ⟨grid, fun brief => ?_⟩
  rw [grid.2 brief]
  intro start member
  rcases List.mem_map.1 member with ⟨index, -, rfl⟩
  rw [period]
  exact (isBoundary_add_mul_iff accepted schedule.due index).2 boundary

/-- A flush that takes a whole period, one that takes no time, and a last one that overruns. -/
theorem brief_flushes_begin_on_boundaries_whole_period :
    let now := 1700000012345678901
    let durations := [60000000000, 0, 90000000000]
    ∃ frequency schedule, FlushFrequency.ofMilliseconds 60000 = .ok frequency ∧
      startAt? frequency now = some schedule ∧
      (∀ duration ∈ durations.dropLast, duration ≤ schedule.period) ∧
      schedule.beginnings now durations = schedule.onGrid 3 ∧
      ∀ start ∈ schedule.beginnings now durations, frequency.IsBoundary start := by
  intro now durations
  let frequency : FlushFrequency := ⟨.ofMilliseconds 60000, by decide⟩
  have accepted : FlushFrequency.ofMilliseconds 60000 = .ok frequency :=
    FlushFrequency.ofMilliseconds_eq_ok.2 ⟨by decide, rfl⟩
  have period : ((startAt? frequency now).map FlushSchedule.period) = some 60000000000 := by
    decide +kernel
  have shown : now / Duration.nanosecondsPerMillisecond < UInt64.size := by decide
  rcases brief_flushes_begin_on_boundaries accepted shown with
    ⟨schedule, starts, -, -, stays⟩
  have brief : ∀ duration ∈ durations.dropLast, duration ≤ schedule.period := by
    rw [starts, Option.map_some, Option.some.injEq] at period
    rw [period]
    decide
  rcases stays durations with ⟨grid, boundaries⟩
  exact ⟨frequency, schedule, accepted, starts, brief, grid.2 brief, boundaries brief⟩

/-- Two and a half milliseconds from time 0 on: none of the flushes begins on a multiple of it. -/
example :
    (startAt? ⟨⟨0, 2500000, by decide⟩, by decide⟩ 0).map
        (fun schedule => schedule.beginnings 0 [0, 0, 0]) =
      some [2000000, 4500000, 7000000] := by
  decide +kernel

/-- A flush that overruns to between two boundaries moves all that follow off the boundaries. -/
theorem not_isBoundary_of_overrun {milliseconds : UInt64} {frequency : FlushFrequency}
    (accepted : FlushFrequency.ofMilliseconds milliseconds = .ok frequency)
    (period : schedule.period = milliseconds.toNat * Duration.nanosecondsPerMillisecond)
    (inTime : ready ≤ schedule.due) {duration : Nat}
    (overrun : schedule.period + tolerance < duration)
    (between : ¬ frequency.IsBoundary (schedule.due + duration)) {durations : List Nat}
    (brief : ∀ duration ∈ durations.dropLast, duration ≤ schedule.period) :
    ∀ start ∈ (schedule.beginnings ready (duration :: durations)).tail,
      ¬ frequency.IsBoundary start := by
  rw [beginnings_of_overrun inTime overrun brief, List.tail_cons]
  intro start member
  rcases List.mem_map.1 member with ⟨index, -, rfl⟩
  rw [period, isBoundary_add_mul_iff accepted]
  exact between

/-- A minute's schedule whose first flush takes a minute and a half: the next ones do not begin
on the minute. -/
theorem long_flush_moves_schedule : ∃ frequency schedule,
    FlushFrequency.ofMilliseconds 60000 = .ok frequency ∧
      startAt? frequency 0 = some schedule ∧
      schedule.beginnings 0 [90000000000, 0, 0] = [60000000000, 150000000000, 210000000000] ∧
      ¬ frequency.IsBoundary 150000000000 ∧ ¬ frequency.IsBoundary 210000000000 := by
  let frequency : FlushFrequency := ⟨.ofMilliseconds 60000, by decide⟩
  let schedule : FlushSchedule := ⟨60000000000, 60000000000⟩
  have accepted : FlushFrequency.ofMilliseconds 60000 = .ok frequency :=
    FlushFrequency.ofMilliseconds_eq_ok.2 ⟨by decide, rfl⟩
  have starts : startAt? frequency 0 = some schedule := by decide +kernel
  have begins : schedule.beginnings 0 [90000000000, 0, 0] =
      [60000000000, 150000000000, 210000000000] := by decide +kernel
  exact ⟨frequency, schedule, accepted, starts, begins, by decide +kernel, by decide +kernel⟩

end FlushSchedule

end Alerting
