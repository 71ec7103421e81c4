import Alerting.SettingError

/-!
# Flush frequencies

Buffered alerts are flushed when the wall clock shows a multiple of the flush frequency,
counted in whole milliseconds, so that flushes of different processes coincide whenever
they were started.
-/

namespace Alerting

/-- The nanoseconds of a second. -/
abbrev Duration.nanosecondsPerSecond : Nat := 1000000000

/-- The nanoseconds of a millisecond. -/
abbrev Duration.nanosecondsPerMillisecond : Nat := 1000000

/-- A span of whole seconds and a fraction of one. -/
structure Duration where
  seconds : UInt64
  nanoseconds : UInt32
  nanoseconds_lt : nanoseconds.toNat < Duration.nanosecondsPerSecond
  deriving DecidableEq

namespace Duration

/-- The whole milliseconds of a span. -/
def milliseconds (duration : Duration) : Nat :=
  duration.seconds.toNat * 1000 + duration.nanoseconds.toNat / nanosecondsPerMillisecond

/-- The span of so many milliseconds. -/
def ofMilliseconds (milliseconds : UInt64) : Duration where
  seconds := UInt64.ofNat (milliseconds.toNat / 1000)
  nanoseconds := UInt32.ofNat (milliseconds.toNat % 1000 * nanosecondsPerMillisecond)
  nanoseconds_lt := by
    have small : milliseconds.toNat % 1000 < 1000 := Nat.mod_lt _ (by decide)
    rw [UInt32.toNat_ofNat']
    refine Nat.lt_of_le_of_lt (Nat.mod_le _ _) ?_
    simp only [nanosecondsPerSecond, nanosecondsPerMillisecond]
    omega

end Duration

/-- The time between two flushes: at least a millisecond. -/
structure FlushFrequency where
  duration : Duration
  milliseconds_pos : 0 < duration.milliseconds
  deriving DecidableEq

namespace FlushFrequency

/-- Accepts a span of at least a millisecond. -/
def ofDuration (duration : Duration) : Except SettingError FlushFrequency :=
  if zero : duration.milliseconds = 0 then .error .zeroFlushFrequency
  else .ok ⟨duration, Nat.pos_of_ne_zero zero⟩

def ofMilliseconds (milliseconds : UInt64) : Except SettingError FlushFrequency :=
  ofDuration (.ofMilliseconds milliseconds)

/-- The frequency in whole milliseconds. -/
def milliseconds (frequency : FlushFrequency) : Nat := frequency.duration.milliseconds

/-- The frequency in whole milliseconds, as the 64-bit word that delays are computed with. -/
def millisecondWord (frequency : FlushFrequency) : UInt64 := UInt64.ofNat frequency.milliseconds

end FlushFrequency

/--
The milliseconds until the clock shows the next multiple of the frequency. On a multiple
it is the whole frequency, so that nothing is flushed at the very start. A frequency of
zero has no multiples to wait for.
-/
def firstDelay? (now frequency : UInt64) : Option UInt64 :=
  if frequency = 0 then none else some (frequency - now % frequency)

/-- The delay that a schedule begins with when the clock shows a time. -/
def FlushFrequency.firstDelay? (frequency : FlushFrequency) (now : UInt64) : Option UInt64 :=
  Alerting.firstDelay? now frequency.millisecondWord

end Alerting
