import Alerting.Identity.Encoding

/-!
# Metrics

What is counted while alerts are evaluated and grouped. A counter that was never
incremented is zero and is not exposed; the gauge is exposed once it was set.
-/

namespace Alerting

/-- Adds to the counter of one alert. -/
def SortedMap.increase (counters : SortedMap AlertId Nat) (alert : AlertId) (amount : Nat) :
    SortedMap AlertId Nat :=
  counters.alter alert fun before => before.getD 0 + amount

/-- One exposed metric: its name, with its labels, and its value. -/
abbrev Sample := String × Nat

/-- The name of a metric with its labels. -/
def labelled (name : String) (labels : List (String × String)) : String :=
  name ++ "\x7b" ++
    String.intercalate "," (labels.map fun label => label.1 ++ "=" ++ label.2) ++ "\x7d"

/-- The sample of a counter without labels. -/
def counterSample (name : String) (value : Nat) : List Sample :=
  if value = 0 then [] else [(name, value)]

/-- One sample per alert. -/
def perAlertSamples (counters : SortedMap AlertId Nat) (name : AlertId → String) :
    List Sample :=
  counters.toList.flatMap fun counter => counterSample (name counter.1) counter.2

/-- The metrics of evaluation. -/
structure EvaluationMetrics where
  purged : SortedMap AlertId Nat := ∅
  /-- First notifications. -/
  raised : SortedMap AlertId Nat := ∅
  /-- Repeated notifications. -/
  nagged : SortedMap AlertId Nat := ∅
  deriving Inhabited

namespace EvaluationMetrics

def raisedName (isNag : Bool) (alert : AlertId) : String :=
  labelled "nagwatch_alerts_raised_total"
    [("alert_id", toString alert), ("nag", toString isNag)]

def samples (metrics : EvaluationMetrics) : List Sample :=
  perAlertSamples metrics.purged
      (fun alert => labelled "nagwatch_state_purged_total" [("alert_id", toString alert)]) ++
    perAlertSamples metrics.raised (raisedName false) ++
    perAlertSamples metrics.nagged (raisedName true)

end EvaluationMetrics

/-- The metrics of grouping. -/
structure GroupingMetrics where
  stranded : SortedMap AlertId Nat := ∅
  submitFailures : Nat := 0
  groupsFlushed : Nat := 0
  /-- The number of buffered alerts when it was last looked at. -/
  buffered : Option Nat := none
  deriving Inhabited

namespace GroupingMetrics

def samples (metrics : GroupingMetrics) : List Sample :=
  perAlertSamples metrics.stranded
      (fun alert => labelled "nagwatch_groupby_stranded_total" [("alert_id", toString alert)]) ++
    counterSample "nagwatch_groupby_submit_failures_total" metrics.submitFailures ++
    counterSample "nagwatch_groupby_groups_flushed_total" metrics.groupsFlushed ++
    (match metrics.buffered with
      | none => []
      | some size => [("nagwatch_groupby_buffered_alerts", size)])

end GroupingMetrics

end Alerting
