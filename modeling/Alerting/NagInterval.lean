import Alerting.SettingError

/-!
# Nag intervals

The least time between two notifications about one lasting severity.
-/

namespace Alerting

/-- When a lasting severity notifies again. -/
inductive NagInterval where
  | never
  | every (seconds : Seconds)
  deriving DecidableEq, Repr

namespace NagInterval

/-- The interval that a setting describes: absent means never, and zero is rejected. -/
def ofSeconds : Option Seconds → Except SettingError NagInterval
  | none => .ok .never
  | some seconds => if seconds = 0 then .error .zeroNagInterval else .ok (.every seconds)

/--
Whether a repeat is due at `now` after the notification at `last`. The interval itself
is not enough: more time than that must have passed.
-/
def isDue (interval : NagInterval) (now last : Instant) : Bool :=
  match interval with
  | .never => false
  | .every seconds => seconds.toInt64 < now.since last

/-- An interval that fits a signed word is compared as the number it is. -/
theorem isDue_every_iff {seconds : Seconds} {now last : Instant}
    (fits : (seconds.toNat : Int) ≤ Int64.maxValue.toInt) :
    (every seconds).isDue now last = true ↔ (seconds.toNat : Int) < (now.since last).toInt := by
  simp only [isDue, decide_eq_true_eq, Int64.lt_iff_toInt_lt, Seconds.toInt_toInt64 fits]

end NagInterval

end Alerting
