import Alerting.Proofs.Pipeline.Cycle

/-!
# Nothing is lost on the way through a pipeline

A journal keeps what a pipeline was given and what it gave back, whatever is done to it in
whatever order. The books balance after every step: each observation is dropped, evaluated
or waiting; each alert that was raised is flushed or buffered, under its key and in its
order; and the counters agree with the figures of the cycles.
-/

namespace Alerting

/-- What is done to a pipeline. -/
inductive PipelineCommand where
  | observe (observation : Observation)
  | cycle (now : Instant)
  | flush

/-- The observation that a command hands to the pipeline. -/
def PipelineCommand.observation? : PipelineCommand → Option Observation
  | .observe observation => some observation
  | .cycle _ | .flush => none

/-- A pipeline with its sink, and all that it was given and gave back. -/
structure Journal (σ : Type) where
  pipeline : Pipeline
  sinkState : σ
  observations : List Observation := []
  summaries : List CycleSummary := []
  /-- What the cycles raised, in order. -/
  raised : List Alert := []
  flushes : List FlushOutcome := []

namespace Journal

variable {σ : Type}

/-- Carries out one command. -/
def step (sink : Sink σ) (journal : Journal σ) : PipelineCommand → Journal σ
  | .observe observation =>
    { journal with
      pipeline := journal.pipeline.observe observation
      observations := journal.observations ++ [observation] }
  | .cycle now =>
    let (summary, pipeline) := journal.pipeline.cycle now
    { journal with
      pipeline
      summaries := journal.summaries ++ [summary]
      raised := journal.raised ++ journal.pipeline.raisedBy now }
  | .flush =>
    let (outcome, pipeline, sinkState) := journal.pipeline.flush sink journal.sinkState
    { journal with pipeline, sinkState, flushes := journal.flushes ++ [outcome] }

/-- Carries out commands in order. -/
def run (sink : Sink σ) (journal : Journal σ) (commands : List PipelineCommand) : Journal σ :=
  commands.foldl (step sink) journal

theorem observations_run (sink : Sink σ) (journal : Journal σ) (commands : List PipelineCommand) :
    (journal.run sink commands).observations =
      journal.observations ++ commands.filterMap PipelineCommand.observation? := by
  induction commands generalizing journal with
  | nil => simp [run]
  | cons command rest ih =>
    have first : (journal.step sink command).observations =
        journal.observations ++ command.observation?.toList := by
      cases command with
      | observe observation => rfl
      | cycle now => exact (List.append_nil _).symm
      | flush => exact (List.append_nil _).symm
    rw [run, List.foldl_cons]
    apply (ih (journal.step sink command)).trans
    rw [first, List.append_assoc, List.filterMap_cons]
    cases command.observation? <;> rfl

/-- The alerts that were flushed under a key, in the order of the flushes. -/
def flushedUnder (journal : Journal σ) (key : GroupKey) : List Alert :=
  journal.flushes.flatMap fun outcome => outcome.alertsUnder key

/-- The sum of a figure over the cycles. -/
def summed (journal : Journal σ) (figure : CycleSummary → Nat) : Nat :=
  sumOf figure journal.summaries

/-- The number of alerts that the flushes report. -/
def reported (journal : Journal σ) : Nat :=
  sumOf (fun outcome => outcome.report.alerts) journal.flushes

/-- The books of a pipeline balance. -/
structure Balanced (config : Config) (journal : Journal σ) : Prop where
  serves : journal.pipeline.Serves config
  rules_eq : journal.pipeline.grouper.rules = config.groupingRules
  consistent : journal.pipeline.grouper.buffer.Consistent
  observations_eq : journal.observations.length =
    journal.pipeline.dropped + journal.summed CycleSummary.observed + journal.pipeline.waiting
  dropped_eq : journal.pipeline.dropped =
    (journal.observations.filter fun observation => !config.accepts observation).length
  queue_eq : ∀ key, journal.flushedUnder key ++ journal.pipeline.grouper.buffer.queue key =
    journal.raised.filter (config.groupingRules.keyOf · = key)
  raised_eq : journal.summed CycleSummary.raised = journal.raised.length
  buffered_eq : journal.raised.length = journal.reported + journal.pipeline.grouper.buffered
  stranded_eq : journal.pipeline.grouper.stranded =
    (journal.raised.filter config.leavesUngrouped).length
  notified_eq : journal.pipeline.metrics.notified = journal.summed CycleSummary.raised
  purged_eq : journal.pipeline.metrics.purged.total id = journal.summed CycleSummary.purged

namespace Balanced

variable {config : Config} {journal : Journal σ}

theorem observe (balanced : journal.Balanced config) (sink : Sink σ) (observation : Observation) :
    (journal.step sink (.observe observation)).Balanced config := by
  have grouper := @Pipeline.grouper_observe journal.pipeline observation
  have metrics := @Pipeline.metrics_observe journal.pipeline observation
  have dropped := balanced.serves.dropped_observe observation
  have waiting := balanced.serves.waiting_observe observation
  constructor
  case serves => exact balanced.serves.observe observation
  case rules_eq => exact (congrArg Grouper.rules grouper).trans balanced.rules_eq
  case consistent =>
    simp only [step, grouper]
    exact balanced.consistent
  case observations_eq =>
    have before := balanced.observations_eq
    simp only [step, summed, List.length_append, List.length_singleton, dropped, waiting]
    cases config.accepts observation <;> simp only [Bool.not_true, Bool.not_false,
      Bool.toNat_true, Bool.toNat_false, summed] at before ⊢ <;> omega
  case dropped_eq =>
    simp only [step, dropped, balanced.dropped_eq, List.filter_append, List.length_append]
    cases taken : config.accepts observation <;> simp [taken]
  case queue_eq =>
    simp only [step, grouper]
    exact balanced.queue_eq
  case raised_eq => exact balanced.raised_eq
  case buffered_eq =>
    simp only [step, grouper]
    exact balanced.buffered_eq
  case stranded_eq =>
    simp only [step, grouper]
    exact balanced.stranded_eq
  case notified_eq =>
    simp only [step, metrics]
    exact balanced.notified_eq
  case purged_eq =>
    simp only [step, metrics]
    exact balanced.purged_eq

theorem cycle (balanced : journal.Balanced config) (buildable : config.Buildable)
    (sink : Sink σ) (now : Instant) :
    (journal.step sink (.cycle now)).Balanced config := by
  constructor
  case serves => exact balanced.serves.cycle now
  case rules_eq =>
    exact (Grouper.rules_addAll _ _).trans balanced.rules_eq
  case consistent => exact Grouper.consistent_addAll _ _ balanced.consistent
  case observations_eq =>
    have before := balanced.observations_eq
    simp only [step, summed, sumOf_append, sumOf_cons, sumOf_nil, Pipeline.observed_cycle,
      Pipeline.dropped_cycle, Pipeline.waiting_cycle] at before ⊢
    omega
  case dropped_eq => exact balanced.dropped_eq
  case queue_eq =>
    intro key
    simp only [step, Pipeline.grouper_cycle, Grouper.queue_addAll, balanced.rules_eq,
      List.filter_append, ← balanced.queue_eq key, List.append_assoc]
    rfl
  case raised_eq =>
    have before := balanced.raised_eq
    simp only [step, summed, sumOf_append, sumOf_cons, sumOf_nil, Pipeline.raised_cycle,
      List.length_append] at before ⊢
    omega
  case buffered_eq =>
    have before := balanced.buffered_eq
    simp only [step, reported, Pipeline.grouper_cycle, Grouper.buffered_addAll,
      List.length_append] at before ⊢
    omega
  case stranded_eq =>
    have ungrouped : (journal.pipeline.raisedBy now).filter config.groupingRules.isStranded =
        (journal.pipeline.raisedBy now).filter config.leavesUngrouped := by
      apply List.filter_congr
      intro alert member
      rcases balanced.serves.exists_definition now member with ⟨definition, configured, sameId⟩
      exact config.isStranded_groupingRules buildable configured sameId
    simp only [step, Pipeline.grouper_cycle, Grouper.stranded_addAll, balanced.rules_eq,
      balanced.stranded_eq, ungrouped, List.filter_append, List.length_append]
  case notified_eq =>
    have before := balanced.notified_eq
    simp only [step, summed, sumOf_append, sumOf_cons, sumOf_nil, Pipeline.notified_cycle]
      at before ⊢
    omega
  case purged_eq =>
    have before := balanced.purged_eq
    simp only [step, summed, sumOf_append, sumOf_cons, sumOf_nil,
      Pipeline.purged_metrics_cycle] at before ⊢
    omega

theorem flush (balanced : journal.Balanced config) (sink : Sink σ) :
    (journal.step sink .flush).Balanced config := by
  have consistent := balanced.consistent
  constructor
  case serves => exact balanced.serves.congr fun _ => rfl
  case rules_eq => exact balanced.rules_eq
  case consistent => exact Buffer.consistent_empty
  case observations_eq => exact balanced.observations_eq
  case dropped_eq => exact balanced.dropped_eq
  case queue_eq =>
    intro key
    have submitted := journal.pipeline.grouper.alertsUnder_flush sink journal.sinkState
      consistent key
    calc (journal.step sink .flush).flushedUnder key ++
          (journal.step sink .flush).pipeline.grouper.buffer.queue key
        = journal.flushedUnder key ++
          (journal.pipeline.grouper.flush sink journal.sinkState).1.alertsUnder key := by
          simp [step, flushedUnder, Pipeline.flush]
      _ = journal.flushedUnder key ++ journal.pipeline.grouper.buffer.queue key := by
          rw [submitted]
      _ = journal.raised.filter (config.groupingRules.keyOf · = key) := balanced.queue_eq key
  case raised_eq => exact balanced.raised_eq
  case buffered_eq =>
    have reports := journal.pipeline.grouper.alerts_report_flush sink journal.sinkState consistent
    have before := balanced.buffered_eq
    simp only [step, reported, sumOf_append, sumOf_cons, sumOf_nil, Pipeline.flush, reports]
      at before ⊢
    exact before
  case stranded_eq => exact balanced.stranded_eq
  case notified_eq => exact balanced.notified_eq
  case purged_eq => exact balanced.purged_eq

/-- The books balance after every run. -/
theorem run (balanced : journal.Balanced config) (buildable : config.Buildable) (sink : Sink σ)
    (commands : List PipelineCommand) : (journal.run sink commands).Balanced config := by
  induction commands generalizing journal with
  | nil => exact balanced
  | cons command rest ih =>
    apply ih
    cases command with
    | observe observation => exact balanced.observe sink observation
    | cycle now => exact balanced.cycle buildable sink now
    | flush => exact balanced.flush sink

end Balanced

/-- Before the first command the books balance. -/
theorem exists_balanced {config : Config} (buildable : config.Buildable) :
    ∃ pipeline, Pipeline.ofConfig config = .ok pipeline ∧
      ∀ (σ : Type) (state : σ), Balanced config { pipeline, sinkState := state } := by
  rcases Pipeline.exists_ofConfig buildable with
    ⟨pipeline, built, serves, waiting, dropped, metrics, frequency, grouper⟩
  refine ⟨pipeline, built, ?_⟩
  intro σ state
  constructor
  case serves => exact serves
  case rules_eq => rw [grouper]
  case consistent =>
    rw [grouper]
    exact Buffer.consistent_empty
  case observations_eq => simp [summed, waiting, dropped]
  case dropped_eq => exact dropped
  case queue_eq =>
    intro key
    simp [flushedUnder, grouper]
  case raised_eq => rfl
  case buffered_eq =>
    rw [grouper]
    rfl
  case stranded_eq =>
    rw [grouper]
    rfl
  case notified_eq =>
    rw [metrics]
    rfl
  case purged_eq =>
    rw [metrics]
    rfl

end Journal

/-- Whatever is done to the pipeline of a validated configuration, and whatever its sink
does with the groups: every observation is dropped, evaluated or waiting, and dropped just
if the configuration does not take it; every raised alert is flushed or buffered, under
the key that the rules generate and in its order; the stranded alerts are those whose
definition names no grouping tags; and the counters agree with the summaries. -/
theorem Journal.nothing_lost_or_duplicated (config : Config) (valid : config.validate = .ok ()) :
    ∃ pipeline, Pipeline.ofConfig config = .ok pipeline ∧
      ∀ (σ : Type) (sink : Sink σ) (state : σ) (commands : List PipelineCommand),
        let journal := run sink { pipeline, sinkState := state } commands
        let observations := commands.filterMap PipelineCommand.observation?
        (observations.length =
            journal.pipeline.dropped + journal.summed CycleSummary.observed +
              journal.pipeline.waiting ∧
          journal.pipeline.dropped =
            (observations.filter fun observation => !config.accepts observation).length ∧
          ∀ observation, (journal.pipeline.observe observation).dropped =
            journal.pipeline.dropped + (!config.accepts observation).toNat) ∧
        ((∀ key, journal.flushedUnder key ++ journal.pipeline.grouper.buffer.queue key =
            journal.raised.filter (config.groupingRules.keyOf · = key)) ∧
          journal.summed CycleSummary.raised = journal.raised.length ∧
          journal.summed CycleSummary.raised =
            journal.reported + journal.pipeline.grouper.buffered) ∧
        journal.pipeline.grouper.stranded =
          (journal.raised.filter config.leavesUngrouped).length ∧
        journal.pipeline.metrics.raised.total id + journal.pipeline.metrics.nagged.total id =
          journal.summed CycleSummary.raised ∧
        journal.pipeline.metrics.purged.total id = journal.summed CycleSummary.purged := by
  have buildable := Config.buildable_of_validate valid
  rcases exists_balanced buildable with ⟨pipeline, built, start⟩
  refine ⟨pipeline, built, ?_⟩
  intro σ sink state commands
  have balanced := (start σ state).run buildable sink commands
  have given := observations_run sink { pipeline, sinkState := state } commands
  rw [List.nil_append] at given
  refine ⟨⟨given ▸ balanced.observations_eq, given ▸ balanced.dropped_eq, ?_⟩,
    ⟨balanced.queue_eq, balanced.raised_eq, ?_⟩, balanced.stranded_eq, balanced.notified_eq,
    balanced.purged_eq⟩
  · exact balanced.serves.dropped_observe
  · exact balanced.raised_eq.trans balanced.buffered_eq

/-- Of two observations, one from a foreign namespace, one is dropped and one evaluated. -/
theorem Journal.nothing_lost_or_duplicated_foreign :
    let config : Config := { alerts := [{ id := 7, groupBy := some ["service"] }, { id := 8 }] }
    let foreign : Observation := ⟨some "staging", 7, ∅, .bad, 100⟩
    let own : Observation := ⟨none, 7, ∅, .bad, 100⟩
    config.validate = .ok () ∧
      ∃ pipeline, Pipeline.ofConfig config = .ok pipeline ∧ ∀ sink : Sink Nat,
        let journal := run sink { pipeline, sinkState := 0 }
          [.observe foreign, .flush, .observe own, .cycle 100, .flush]
        journal.pipeline.dropped = 1 ∧
          journal.summed CycleSummary.observed + journal.pipeline.waiting = 1 ∧
          journal.summed CycleSummary.raised =
            journal.reported + journal.pipeline.grouper.buffered := by
  have valid : Config.validate
      { alerts := [{ id := 7, groupBy := some ["service"] }, { id := 8 }] } = .ok () := by
    decide +kernel
  intro config foreign own
  rcases nothing_lost_or_duplicated config valid with ⟨pipeline, built, books⟩
  refine ⟨valid, pipeline, built, ?_⟩
  intro sink
  rcases books Nat sink 0 [.observe foreign, .flush, .observe own, .cycle 100, .flush] with
    ⟨⟨observations, dropped, -⟩, ⟨-, -, flushed⟩, -⟩
  have lost : ([foreign, own].filter fun observation => !config.accepts observation).length =
      1 := by
    decide
  have one := dropped.trans lost
  refine ⟨one, ?_, flushed⟩
  rw [one, Nat.add_assoc] at observations
  exact Nat.add_left_cancel observations.symm

end Alerting
