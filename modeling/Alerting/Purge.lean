import Alerting.SettingError

/-!
# Purge policies

An entity is forgotten once it has been silent for longer than a window. The first
purge after a start looks further back, because entities restored from a checkpoint have
had no chance to report yet. The policy carries the facts its constructor checks.
-/

namespace Alerting

/--
When to forget: the instant that an entity must have been seen since, for a purge at a
given time that is, or is not, the first one after a start.
-/
abbrev CutoffRule := Instant → Bool → Instant

/-- The windows after which silent entities are forgotten. -/
structure PurgePolicy where
  window : Seconds
  firstRunWindow : Seconds
  window_pos : 0 < window
  window_le_firstRunWindow : window ≤ firstRunWindow
  deriving DecidableEq

namespace PurgePolicy

/-- Accepts two positive windows of which the one for the first run is not the shorter. -/
def ofWindows (window firstRunWindow : Seconds) : Except SettingError PurgePolicy :=
  if zero : window = 0 then .error (.zeroPurgeWindow .periodic)
  else if firstRunWindow = 0 then .error (.zeroPurgeWindow .firstRun)
  else if short : firstRunWindow < window then
    .error (.firstRunWindowTooShort firstRunWindow window)
  else
    .ok ⟨window, firstRunWindow, Seconds.pos_of_ne_zero zero, UInt64.not_lt.1 short⟩

/-- What was last seen before this instant is forgotten. -/
def cutoff (policy : PurgePolicy) : CutoffRule := fun now isFirstRun =>
  now.ago (if isFirstRun then policy.firstRunWindow else policy.window)

end PurgePolicy

end Alerting
