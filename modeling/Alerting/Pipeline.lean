import Alerting.Checkpoint
import Alerting.Evaluator
import Alerting.Grouper

/-!
# Pipelines

All alerts of a configuration with the grouper they share. Observations go to the
evaluator of their alert; a cycle runs every evaluator and buffers what they raise, in
the order of the alerts. A checkpoint takes down all entities, and restoring puts them
into the evaluators that still exist.
-/

namespace Alerting

/-- What a cycle of all alerts brought. -/
structure CycleSummary where
  observed : Nat
  raised : Nat
  purged : Nat
  deriving DecidableEq, Repr

/-- The evaluators of a configuration and their grouper. -/
structure Pipeline where
  evaluators : SortedMap AlertId Evaluator
  grouper : Grouper
  purge : PurgePolicy
  /-- Observations that no evaluator accepted. -/
  dropped : Nat := 0
  metrics : EvaluationMetrics := {}

namespace Pipeline

/-- The evaluators of definitions, under their ids. -/
def evaluatorsOf : List AlertDefinition → Except ConfigError (List (AlertId × Evaluator))
  | [] => .ok []
  | definition :: rest => do
    let evaluator ← Evaluator.ofDefinition definition
    let others ← evaluatorsOf rest
    .ok ((definition.id, evaluator) :: others)

/-- The pipeline of a configuration, before its first cycle. -/
def ofConfig (config : Config) : Except ConfigError Pipeline := do
  let evaluators ← evaluatorsOf config.alerts
  let frequency ← config.frequency
  let purge ← config.purgePolicy
  .ok {
    evaluators := SortedMap.ofList evaluators
    grouper := { frequency, rules := config.groupingRules }
    purge }

/-- Hands an observation to the evaluator of its alert, or drops it. -/
def observe (pipeline : Pipeline) (observation : Observation) : Pipeline :=
  match pipeline.evaluators.get? observation.alertId with
  | none => { pipeline with dropped := pipeline.dropped + 1 }
  | some evaluator =>
    if evaluator.accepts observation then
      { pipeline with
        evaluators :=
          pipeline.evaluators.insert observation.alertId (evaluator.observe observation) }
    else { pipeline with dropped := pipeline.dropped + 1 }

/-- What a cycle brings for each alert, and the evaluators after it. -/
def cycleEach (pipeline : Pipeline) (now : Instant) :
    SortedMap AlertId (CycleOutcome × Evaluator) :=
  pipeline.evaluators.mapValues fun evaluator => evaluator.cycle pipeline.purge now

/-- The sum of a figure over all alerts. -/
def sumOver (outcomes : List (AlertId × CycleOutcome)) (figure : CycleOutcome → Nat) : Nat :=
  outcomes.foldr (fun outcome sum => figure outcome.2 + sum) 0

/-- The outcomes among the results of a cycle, in the order of the alerts. -/
def outcomesOf (results : SortedMap AlertId (CycleOutcome × Evaluator)) :
    List (AlertId × CycleOutcome) :=
  results.toList.map fun result => (result.1, result.2.1)

/-- What outcomes raise, in their order. -/
def alertsOf (outcomes : List (AlertId × CycleOutcome)) : List Alert :=
  outcomes.flatMap fun outcome => outcome.2.alerts

/-- The alerts that a cycle raises, in the order in which they are raised. -/
def raisedBy (pipeline : Pipeline) (now : Instant) : List Alert :=
  alertsOf (outcomesOf (pipeline.cycleEach now))

/-- Runs a cycle of every alert and buffers what they raise. -/
def cycle (pipeline : Pipeline) (now : Instant) : CycleSummary × Pipeline :=
  let results := pipeline.cycleEach now
  let outcomes := outcomesOf results
  let alerts := alertsOf outcomes
  ({ observed := sumOver outcomes CycleOutcome.observed
     raised := alerts.length
     purged := sumOver outcomes CycleOutcome.purged },
    { pipeline with
      evaluators := results.mapValues Prod.snd
      grouper := alerts.foldl Grouper.add pipeline.grouper
      metrics := outcomes.foldl (fun metrics outcome => metrics.record outcome.1 outcome.2)
        pipeline.metrics })

/-- Flushes the buffered alerts into a sink. -/
def flush {σ : Type} (pipeline : Pipeline) (sink : Sink σ) (state : σ) :
    FlushOutcome × Pipeline × σ :=
  let (outcome, grouper, state) := pipeline.grouper.flush sink state
  (outcome, { pipeline with grouper }, state)

/-- The entities of all alerts. -/
def checkpoint (pipeline : Pipeline) (takenAt : Instant) : Checkpoint where
  version := Checkpoint.currentVersion
  takenAt := takenAt
  alerts := pipeline.evaluators.mapValues Evaluator.records

/-- Puts the records of one alert into its evaluator, if there is one. -/
def restoreAlert (pipeline : Pipeline) (id : AlertId) (entries : List EntityRecord) :
    Pipeline :=
  match pipeline.evaluators.get? id with
  | none => pipeline
  | some evaluator =>
    { pipeline with evaluators := pipeline.evaluators.insert id (evaluator.restore entries) }

/-- Puts the entities of a checkpoint into the evaluators that exist. -/
def restore (pipeline : Pipeline) (checkpoint : Checkpoint) : Pipeline :=
  checkpoint.alerts.toList.foldl (fun pipeline alert => pipeline.restoreAlert alert.1 alert.2)
    pipeline

/-- The number of records that `restore` takes over. -/
def restoredCount (pipeline : Pipeline) (checkpoint : Checkpoint) : Nat :=
  ((checkpoint.alerts.filter fun id _ => pipeline.evaluators.contains id).toList.flatMap
    Prod.snd).length

/-- The alerts of a checkpoint that are no longer configured, with the number of their records. -/
def ignored (pipeline : Pipeline) (checkpoint : Checkpoint) : List (AlertId × Nat) :=
  (checkpoint.alerts.filter fun id _ => !pipeline.evaluators.contains id).toList.map
    fun alert => (alert.1, alert.2.length)

/-- A fresh pipeline that goes on counting where another one stopped. -/
def continueMetrics (pipeline earlier : Pipeline) : Pipeline :=
  { pipeline with
    metrics := earlier.metrics
    grouper := { pipeline.grouper with metrics := earlier.grouper.metrics } }

/-- Everything that is exposed. -/
def samples (pipeline : Pipeline) : List Sample :=
  pipeline.metrics.samples ++ pipeline.grouper.metrics.samples

end Pipeline

end Alerting
