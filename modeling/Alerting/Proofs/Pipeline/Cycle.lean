import Alerting.Proofs.Evaluator.Cycle
import Alerting.Proofs.Grouper
import Alerting.Proofs.Pipeline.Routing

/-!
# A cycle of all alerts

The figures of a cycle are sums over the evaluators, and what the evaluators raise reaches
the grouper, the summary and the metrics alike. Afterwards no observation waits.
-/

namespace Alerting

/-- Whether an alert comes from a definition without grouping tags. -/
def Config.leavesUngrouped (config : Config) (alert : Alert) : Bool :=
  config.alerts.any fun definition =>
    definition.id = alert.alertId && definition.groupBy.isNone

/-- Rules are missing for the alerts of a definition that names no grouping tags. -/
theorem Config.isStranded_groupingRules {config : Config} (buildable : config.Buildable)
    {definition : AlertDefinition} (member : definition ∈ config.alerts) {alert : Alert}
    (sameId : definition.id = alert.alertId) :
    config.groupingRules.isStranded alert = config.leavesUngrouped alert := by
  have unique {other : AlertDefinition} (otherMember : other ∈ config.alerts)
      (otherId : other.id = alert.alertId) : other = definition :=
    List.inj_on_of_nodup_map buildable.distinct otherMember member (otherId.trans sameId.symm)
  have ungrouped : config.leavesUngrouped alert = definition.groupBy.isNone := by
    rw [Bool.eq_iff_iff, leavesUngrouped, List.any_eq_true]
    constructor
    · rintro ⟨other, otherMember, agrees⟩
      simp only [Bool.and_eq_true, decide_eq_true_eq] at agrees
      exact unique otherMember agrees.1 ▸ agrees.2
    · intro none
      exact ⟨definition, member, by simp [sameId, none]⟩
  have same : config.groupingRules.get? alert.alertId = definition.groupBy :=
    sameId ▸ buildable.get?_groupingRules member
  rw [ungrouped, GroupingRules.isStranded, SortedMap.contains, same]
  cases definition.groupBy <;> rfl

/-! ## Metrics of a cycle -/

namespace EvaluationMetrics

/-- All notifications that were counted, first ones and repeats, of all alerts. -/
def notified (metrics : EvaluationMetrics) : Nat :=
  metrics.raised.total id + metrics.nagged.total id

variable (metrics : EvaluationMetrics)

theorem notified_record (alert : AlertId) (outcome : CycleOutcome) :
    (metrics.record alert outcome).notified = metrics.notified + outcome.alerts.length := by
  have le := List.length_filter_le (fun alert : Alert => alert.isNag) outcome.alerts
  simp only [notified, record, SortedMap.total_increase]
  omega

theorem purged_record (alert : AlertId) (outcome : CycleOutcome) :
    (metrics.record alert outcome).purged.total id =
      metrics.purged.total id + outcome.purged := by
  rw [record, SortedMap.total_increase]

/-- Counting a row of outcomes adds up what they brought. -/
theorem notified_foldl_record (outcomes : List (AlertId × CycleOutcome)) :
    (outcomes.foldl (fun metrics outcome => metrics.record outcome.1 outcome.2)
        metrics).notified = metrics.notified + (Pipeline.alertsOf outcomes).length := by
  induction outcomes generalizing metrics with
  | nil => rfl
  | cons outcome rest ih =>
    have split : Pipeline.alertsOf (outcome :: rest) =
        outcome.2.alerts ++ Pipeline.alertsOf rest := rfl
    rw [List.foldl_cons, ih, notified_record, split, List.length_append, Nat.add_assoc]

theorem purged_foldl_record (outcomes : List (AlertId × CycleOutcome)) :
    (outcomes.foldl (fun metrics outcome => metrics.record outcome.1 outcome.2)
        metrics).purged.total id =
      metrics.purged.total id + Pipeline.sumOver outcomes CycleOutcome.purged := by
  induction outcomes generalizing metrics with
  | nil => rfl
  | cons outcome rest ih =>
    rw [List.foldl_cons, ih, purged_record, Nat.add_assoc]
    rfl

end EvaluationMetrics

/-! ## Pipelines -/

namespace Pipeline

variable (pipeline : Pipeline) (now : Instant)

/-- What a cycle hands to the grouper: the raised alerts, each with its group key. -/
def handedOver : List (GroupKey × Alert) :=
  (pipeline.raisedBy now).map fun alert => (pipeline.grouper.rules.keyOf alert, alert)

/-- A figure of a cycle is a sum over the evaluators. -/
theorem sumOver_outcomesOf (figure : CycleOutcome → Nat) :
    sumOver (outcomesOf (pipeline.cycleEach now)) figure =
      pipeline.evaluators.total fun evaluator =>
        figure (evaluator.cycle pipeline.purge now).1 := by
  have sum : sumOver (outcomesOf (pipeline.cycleEach now)) figure =
      (pipeline.cycleEach now).total fun result => figure result.1 :=
    sumOf_map _ _ _
  rw [sum, cycleEach, SortedMap.total_mapValues]

@[simp] theorem raised_cycle : (pipeline.cycle now).1.raised = (pipeline.raisedBy now).length :=
  rfl

/-- A cycle evaluates everything that waits. -/
@[simp] theorem observed_cycle : (pipeline.cycle now).1.observed = pipeline.waiting :=
  pipeline.sumOver_outcomesOf now CycleOutcome.observed

/-- A cycle of all alerts is a cycle of each evaluator. -/
theorem get?_cycle (id : AlertId) :
    (pipeline.cycle now).2.evaluators.get? id =
      (pipeline.evaluators.get? id).map fun evaluator =>
        (evaluator.cycle pipeline.purge now).2 := by
  simp only [cycle, cycleEach, SortedMap.get?_mapValues, Option.map_map]
  rfl

@[simp] theorem dropped_cycle : (pipeline.cycle now).2.dropped = pipeline.dropped := rfl

@[simp] theorem grouper_cycle :
    (pipeline.cycle now).2.grouper = pipeline.grouper.addAll (pipeline.raisedBy now) := rfl

/-- What is handed over is queued under its key, behind what waits there. -/
theorem queue_cycle (key : GroupKey) :
    (pipeline.cycle now).2.grouper.buffer.queue key =
      pipeline.grouper.buffer.queue key ++
        ((pipeline.handedOver now).filter (·.1 = key)).map Prod.snd := by
  rw [grouper_cycle, Grouper.queue_addAll, handedOver, List.filter_map, List.map_map]
  exact congrArg _ (List.map_id _).symm

@[simp] theorem waiting_cycle : (pipeline.cycle now).2.waiting = 0 := by
  simp only [waiting, cycle, cycleEach, SortedMap.total_mapValues]
  exact sumOf_eq_zero _ fun _ _ => rfl

theorem notified_cycle :
    (pipeline.cycle now).2.metrics.notified =
      pipeline.metrics.notified + (pipeline.cycle now).1.raised :=
  pipeline.metrics.notified_foldl_record _

theorem purged_metrics_cycle :
    (pipeline.cycle now).2.metrics.purged.total id =
      pipeline.metrics.purged.total id + (pipeline.cycle now).1.purged :=
  pipeline.metrics.purged_foldl_record _

variable {pipeline} {config : Config}

theorem Serves.cycle (serves : pipeline.Serves config) (now : Instant) :
    (pipeline.cycle now).2.Serves config := by
  apply serves.congr
  intro id
  rw [get?_cycle, Option.map_map]
  rfl

/-- Each evaluator stands under the id of the alert that it serves. -/
theorem Serves.alertId_eq (serves : pipeline.Serves config) {id : AlertId}
    {evaluator : Evaluator} (held : pipeline.evaluators.get? id = some evaluator) :
    evaluator.alertId = id := by
  rcases serves.defined id (by simp [held]) with ⟨definition, configured, rfl⟩
  have served := serves.covers definition configured
  rw [held] at served
  exact (Prod.mk.inj (Option.some.inj served)).1

theorem raisedBy_eq :
    pipeline.raisedBy now = pipeline.evaluators.toList.flatMap fun entry =>
      (entry.2.cycle pipeline.purge now).1.alerts := by
  simp only [raisedBy, alertsOf, outcomesOf, cycleEach, SortedMap.mapValues, List.flatMap_map]

/-- The alerts of one id are those that its evaluator raises. -/
theorem Serves.filter_raisedBy (serves : pipeline.Serves config) {id : AlertId}
    {evaluator : Evaluator} (held : pipeline.evaluators.get? id = some evaluator) :
    (pipeline.raisedBy now).filter (·.alertId = id) =
      (evaluator.cycle pipeline.purge now).1.alerts := by
  have own (entry : AlertId × Evaluator) (member : entry ∈ pipeline.evaluators.toList) :
      (entry.2.cycle pipeline.purge now).1.alerts.filter (·.alertId = id) =
        if entry.1 = id then (entry.2.cycle pipeline.purge now).1.alerts else [] := by
    have named := serves.alertId_eq (SortedMap.mem_toList.1 member)
    split
    · rename_i same
      apply List.filter_eq_self.2
      intro alert inAlerts
      have speaks : alert.alertId = entry.2.alertId := Evaluator.alertId_of_mem_alerts inAlerts
      simp [speaks, named, same]
    · rename_i different
      apply List.filter_eq_nil_iff.2
      intro alert inAlerts
      have speaks : alert.alertId = entry.2.alertId := Evaluator.alertId_of_mem_alerts inAlerts
      simp [speaks, named, different]
  calc (pipeline.raisedBy now).filter (·.alertId = id)
      = pipeline.evaluators.toList.flatMap fun entry =>
          (entry.2.cycle pipeline.purge now).1.alerts.filter (·.alertId = id) := by
        rw [raisedBy_eq, List.filter_flatMap]
    _ = pipeline.evaluators.toList.flatMap fun entry =>
          if entry.1 = id then (entry.2.cycle pipeline.purge now).1.alerts else [] := by
        exact List.flatMap_congr own
    _ = (evaluator.cycle pipeline.purge now).1.alerts := by
        rw [SortedMap.flatMap_key_toList pipeline.evaluators id fun evaluator =>
          (evaluator.cycle pipeline.purge now).1.alerts, held]
        rfl

/-- What a cycle raises comes from configured alerts. -/
theorem Serves.exists_definition (serves : pipeline.Serves config) {alert : Alert}
    (member : alert ∈ pipeline.raisedBy now) :
    ∃ definition ∈ config.alerts, definition.id = alert.alertId := by
  simp only [raisedBy, alertsOf, outcomesOf, cycleEach, SortedMap.mapValues, List.mem_flatMap,
    List.mem_map] at member
  rcases member with ⟨_, ⟨_, ⟨⟨id, evaluator⟩, inEvaluators, rfl⟩, rfl⟩, inAlerts⟩
  have held := SortedMap.mem_toList.1 inEvaluators
  rcases serves.defined id (by simp [held]) with ⟨definition, configured, named⟩
  have speaks : alert.alertId = id :=
    (Evaluator.alertId_of_mem_alerts inAlerts).trans (serves.alertId_eq held)
  exact ⟨definition, configured, named.trans speaks.symm⟩

end Pipeline

end Alerting
