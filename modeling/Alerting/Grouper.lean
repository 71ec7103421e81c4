import Alerting.Buffer
import Alerting.Flush.Frequency
import Alerting.Flush.Outcome
import Alerting.Group.Rules
import Alerting.Metrics

/-!
# Groupers

A grouper buffers raised alerts under their group keys and, at a flush, submits one
group per key. A flush empties the buffer whatever the sink does; groups that were not
taken are counted and reported, not kept.
-/

namespace Alerting

/-- Alerts waiting for the next flush, and the counts since the grouper came into being. -/
structure Grouper where
  frequency : FlushFrequency
  rules : GroupingRules
  buffer : Buffer GroupKey Alert := .empty
  /-- Alerts that came without grouping rules. -/
  stranded : Nat := 0
  /-- Groups that a sink did not take. -/
  submitFailures : Nat := 0
  metrics : GroupingMetrics := {}

namespace Grouper

/-- The number of buffered alerts. -/
def buffered (grouper : Grouper) : Nat := grouper.buffer.size

/-- Buffers an alert under a given key. -/
def addUnder (grouper : Grouper) (key : GroupKey) (alert : Alert) : Grouper :=
  let buffer := grouper.buffer.add key alert
  { grouper with buffer, metrics := { grouper.metrics with buffered := some buffer.size } }

/-- Counts an alert that no rules apply to. -/
def countStranded (grouper : Grouper) (alert : Alert) : Grouper :=
  if grouper.rules.isStranded alert then
    { grouper with
      stranded := grouper.stranded + 1
      metrics := { grouper.metrics with
        stranded := grouper.metrics.stranded.increase alert.alertId 1 } }
  else grouper

/-- Buffers an alert under the key that the rules give it. -/
def add (grouper : Grouper) (alert : Alert) : Grouper :=
  (grouper.countStranded alert).addUnder (grouper.rules.keyOf alert) alert

/-- Submits everything that is buffered, one group per key. -/
def flush {σ : Type} (grouper : Grouper) (sink : Sink σ) (state : σ) :
    FlushOutcome × Grouper × σ :=
  let (queues, buffer) := grouper.buffer.flush
  let (submissions, state) :=
    submitAll sink (queues.map fun queue => ⟨queue.1, queue.2⟩) state
  let outcome : FlushOutcome := ⟨submissions⟩
  let failed := outcome.report.failedGroups
  (outcome,
    { grouper with
      buffer
      submitFailures := grouper.submitFailures + failed
      metrics := { grouper.metrics with
        buffered := some 0
        submitFailures := grouper.metrics.submitFailures + failed
        groupsFlushed := grouper.metrics.groupsFlushed + outcome.report.groups } },
    state)

end Grouper

end Alerting
