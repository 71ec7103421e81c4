import Alerting.Instant

/-!
# Rejected settings

Why a setting cannot be used. Each constructor is one cause; the wording is in `message`.
-/

namespace Alerting

/-- The two windows of a purge policy. -/
inductive PurgeWindow where
  | periodic
  | firstRun
  deriving DecidableEq, Repr

/-- The name under which a window is configured. -/
def PurgeWindow.settingName : PurgeWindow → String
  | .periodic => "window_secs"
  | .firstRun => "first_run_window_secs"

/-- The causes for which a setting is rejected. -/
inductive SettingError where
  | zeroNagInterval
  | zeroPurgeWindow (window : PurgeWindow)
  | firstRunWindowTooShort (firstRun periodic : Seconds)
  | zeroStaleness
  | zeroFlushFrequency
  | unknownSeverity (text : String)
  deriving DecidableEq, Repr

namespace SettingError

/-- What the operator is told. -/
def message : SettingError → String
  | .zeroNagInterval => "nag interval must be positive (use DoNotNag to disable repeats)"
  | .zeroPurgeWindow window => "purge window must be positive: " ++ window.settingName
  | .firstRunWindowTooShort firstRun periodic =>
    s!"first-run purge window ({firstRun}s) is shorter than the periodic window ({periodic}s)"
  | .zeroStaleness => "allowed staleness must be positive"
  | .zeroFlushFrequency => "flush frequency must be positive"
  | .unknownSeverity text => "unknown alert state: " ++ text

end SettingError

end Alerting
