import Alerting.Proofs.Evaluator.Agreement
import Alerting.Proofs.Pipeline.Conservation
import Alerting.Proofs.Pipeline.Restore

/-!
# Entities do not interfere

A run shows of an entity what its cycles raise about it and what they leave stored. Leaving
out all observations about other entities changes neither: throughout the two runs, the
evaluators of the entity's alert agree on the entity.
-/

namespace Alerting

/-! ## Pipelines that agree on an entity -/

/-- What a cycle shows about an entity: the alerts about it with their group keys, and what
is stored about it afterwards. -/
structure EntityView where
  alerts : List (GroupKey × Alert)
  stored : Option Entity

namespace Pipeline

/-- What is stored about an entity of an alert. -/
def stored? (pipeline : Pipeline) (alert : AlertId) (id : EntityId) : Option Entity :=
  (pipeline.evaluators.get? alert).bind fun evaluator => evaluator.store.stored? id

/-- What the next cycle shows about an entity of an alert. -/
def view (pipeline : Pipeline) (alert : AlertId) (id : EntityId) (now : Instant) : EntityView where
  alerts := (pipeline.handedOver now).filter fun handed =>
    handed.2.alertId = alert ∧ handed.2.entity = id
  stored := (pipeline.cycle now).2.stored? alert id

/-- Two pipelines of one configuration know the same about an entity of a definition. -/
structure AgreeOn (config : Config) (definition : AlertDefinition) (id : EntityId)
    (first second : Pipeline) : Prop where
  serves : first.Serves config
  alsoServes : second.Serves config
  purge : first.purge = second.purge
  rules : first.grouper.rules = second.grouper.rules
  evaluators : ∃ one other, first.evaluators.get? definition.id = some one ∧
    second.evaluators.get? definition.id = some other ∧ Evaluator.AgreesOn id one other

/-- Where an evaluator sees an entity is settled by the definition that it serves. -/
theorem Serves.identify_eq {pipeline : Pipeline} {config : Config} (serves : pipeline.Serves config)
    {definition : AlertDefinition} (configured : definition ∈ config.alerts)
    {evaluator : Evaluator} (held : pipeline.evaluators.get? definition.id = some evaluator)
    (observation : Observation) :
    evaluator.identify observation =
      entityId definition.namespaceName definition.id observation.tags := by
  have served := serves.covers definition configured
  rw [held] at served
  rcases Prod.mk.inj (Option.some.inj served) with ⟨alertId, namespaceName⟩
  rw [Evaluator.identify, alertId, namespaceName]

/-- What is handed over about an entity comes from the evaluator of its alert. -/
theorem Serves.filter_handedOver {pipeline : Pipeline} {config : Config}
    (serves : pipeline.Serves config) (now : Instant) {alert : AlertId} {evaluator : Evaluator}
    (held : pipeline.evaluators.get? alert = some evaluator) {id : EntityId} :
    (pipeline.handedOver now).filter (fun handed =>
        handed.2.alertId = alert ∧ handed.2.entity = id) =
      ((evaluator.cycle pipeline.purge now).1.alerts.filter (·.entity = id)).map fun alert =>
        (pipeline.grouper.rules.keyOf alert, alert) := by
  rw [← serves.filter_raisedBy now held, List.filter_filter, handedOver, List.filter_map]
  congr 1
  apply List.filter_congr
  intro raised _
  simp [Bool.and_comm]

namespace AgreeOn

variable {config : Config} {definition : AlertDefinition} {id : EntityId} {first second : Pipeline}

theorem refl {pipeline : Pipeline} (serves : pipeline.Serves config)
    (configured : definition ∈ config.alerts) (id : EntityId) :
    AgreeOn config definition id pipeline pipeline := by
  rcases Option.map_eq_some_iff.1 (serves.covers definition configured) with ⟨evaluator, held, -⟩
  exact ⟨serves, serves, rfl, rfl, evaluator, evaluator, held, held, .refl id evaluator⟩

/-- Pipelines that agree on an entity still do when both are given an observation. -/
theorem observe (agree : AgreeOn config definition id first second) (observation : Observation) :
    AgreeOn config definition id (first.observe observation) (second.observe observation) where
  serves := agree.serves.observe observation
  alsoServes := agree.alsoServes.observe observation
  purge := by rw [purge_observe, purge_observe, agree.purge]
  rules := by rw [grouper_observe, grouper_observe, agree.rules]
  evaluators := by
    rcases agree.evaluators with ⟨one, other, held, alsoHeld, agrees⟩
    by_cases addressed : definition.id = observation.alertId
    · refine ⟨one.offer observation, other.offer observation, ?_, ?_, agrees.offer observation⟩
      · rw [get?_observe, if_pos addressed, held, Option.map_some]
      · rw [get?_observe, if_pos addressed, alsoHeld, Option.map_some]
    · refine ⟨one, other, ?_, ?_, agrees⟩
      · rw [get?_observe, if_neg addressed, held]
      · rw [get?_observe, if_neg addressed, alsoHeld]

/-- An observation about another entity does not matter. -/
theorem observe_left (agree : AgreeOn config definition id first second)
    (configured : definition ∈ config.alerts) {observation : Observation}
    (foreign : observation.alertId = definition.id →
      entityId definition.namespaceName definition.id observation.tags ≠ id) :
    AgreeOn config definition id (first.observe observation) second where
  serves := agree.serves.observe observation
  alsoServes := agree.alsoServes
  purge := by rw [purge_observe, agree.purge]
  rules := by rw [grouper_observe, agree.rules]
  evaluators := by
    rcases agree.evaluators with ⟨one, other, held, alsoHeld, agrees⟩
    by_cases addressed : definition.id = observation.alertId
    · have elsewhere : one.identify observation ≠ id := by
        rw [agree.serves.identify_eq configured held]
        exact foreign addressed.symm
      refine ⟨one.offer observation, other, ?_, alsoHeld, agrees.offer_left elsewhere⟩
      rw [get?_observe, if_pos addressed, held, Option.map_some]
    · refine ⟨one, other, ?_, alsoHeld, agrees⟩
      rw [get?_observe, if_neg addressed, held]

theorem cycle (agree : AgreeOn config definition id first second) (now : Instant) :
    AgreeOn config definition id (first.cycle now).2 (second.cycle now).2 where
  serves := agree.serves.cycle now
  alsoServes := agree.alsoServes.cycle now
  purge := agree.purge
  rules := by
    rw [grouper_cycle, grouper_cycle, Grouper.rules_addAll, Grouper.rules_addAll, agree.rules]
  evaluators := by
    rcases agree.evaluators with ⟨one, other, held, alsoHeld, agrees⟩
    refine ⟨_, _, by rw [get?_cycle, held, Option.map_some],
      by rw [get?_cycle, alsoHeld, Option.map_some], ?_⟩
    rw [Evaluator.cycle, Evaluator.cycle, agree.purge]
    exact agrees.cycleUnder now second.purge.cutoff

theorem flush (agree : AgreeOn config definition id first second) {σ : Type} (sink : Sink σ)
    (state other : σ) :
    AgreeOn config definition id (first.flush sink state).2.1 (second.flush sink other).2.1 where
  serves := agree.serves.congr fun _ => rfl
  alsoServes := agree.alsoServes.congr fun _ => rfl
  purge := agree.purge
  rules := agree.rules
  evaluators := agree.evaluators

/-- Pipelines that agree on an entity show the same of it. -/
theorem view_eq (agree : AgreeOn config definition id first second) (now : Instant) :
    first.view definition.id id now = second.view definition.id id now := by
  rcases agree.evaluators with ⟨one, other, held, alsoHeld, agrees⟩
  have alerts : (first.handedOver now).filter (fun handed =>
        handed.2.alertId = definition.id ∧ handed.2.entity = id) =
      (second.handedOver now).filter fun handed =>
        handed.2.alertId = definition.id ∧ handed.2.entity = id := by
    rw [agree.serves.filter_handedOver now held, agree.alsoServes.filter_handedOver now alsoHeld,
      agree.rules, agree.purge]
    exact congrArg _ (agrees.filter_alerts now second.purge.cutoff)
  have stored : (first.cycle now).2.stored? definition.id id =
      (second.cycle now).2.stored? definition.id id := by
    rcases (agree.cycle now).evaluators with ⟨one, other, held, alsoHeld, agrees⟩
    rw [stored?, stored?, held, alsoHeld]
    exact agrees.stored
  rw [view, view, alerts, stored]

end AgreeOn

end Pipeline

/-! ## Runs -/

/-- Whether a command bears on an entity of a definition. Of the observations, those do that
are about it. -/
def PipelineCommand.concerns (definition : AlertDefinition) (id : EntityId) :
    PipelineCommand → Bool
  | .observe observation =>
    observation.alertId = definition.id &&
      entityId definition.namespaceName definition.id observation.tags = id
  | .cycle _ | .flush => true

namespace Journal

variable {σ : Type}

/-- What the cycles of a run show about an entity, cycle by cycle. -/
def views (sink : Sink σ) (alert : AlertId) (id : EntityId) :
    Journal σ → List PipelineCommand → List EntityView
  | _, [] => []
  | journal, command :: rest =>
    let later := views sink alert id (journal.step sink command) rest
    match command with
    | .cycle now => journal.pipeline.view alert id now :: later
    | .observe _ | .flush => later

/-- Leaving out what does not concern an entity changes nothing that a run shows about it. -/
theorem views_filter_eq {config : Config} {definition : AlertDefinition} {id : EntityId}
    (configured : definition ∈ config.alerts) (sink : Sink σ) (commands : List PipelineCommand)
    {full reduced : Journal σ}
    (agree : full.pipeline.AgreeOn config definition id reduced.pipeline) :
    reduced.views sink definition.id id (commands.filter (·.concerns definition id)) =
      full.views sink definition.id id commands := by
  induction commands generalizing full reduced with
  | nil => rfl
  | cons command rest ih =>
    cases command with
    | observe observation =>
      by_cases concerned : (PipelineCommand.observe observation).concerns definition id = true
      · rw [List.filter_cons_of_pos concerned]
        exact ih (agree.observe observation)
      · rw [List.filter_cons_of_neg concerned]
        simp only [PipelineCommand.concerns, Bool.and_eq_true, decide_eq_true_eq, not_and]
          at concerned
        exact ih (agree.observe_left configured concerned)
    | cycle now =>
      have kept : (PipelineCommand.cycle now).concerns definition id = true := rfl
      have later : (reduced.step sink (.cycle now)).views sink definition.id id
            (rest.filter (·.concerns definition id)) =
          (full.step sink (.cycle now)).views sink definition.id id rest := ih (agree.cycle now)
      rw [List.filter_cons_of_pos kept, views, views, later, agree.view_eq now]
    | flush =>
      have kept : PipelineCommand.flush.concerns definition id = true := rfl
      rw [List.filter_cons_of_pos kept]
      exact ih (agree.flush sink full.sinkState reduced.sinkState)

/-- From any run of a configuration with distinct alerts, whatever checkpoint it started
from, leave out all observations about other entities than one. Cycle by cycle, the same
alerts are raised about this entity under the same group keys, and the same is stored about
it afterwards, if it is stored. -/
theorem entities_do_not_interfere (config : Config)
    (distinct : (config.alerts.map AlertDefinition.id).Nodup) (fresh : Pipeline)
    (built : Pipeline.ofConfig config = .ok fresh) (checkpoint : Checkpoint) (sink : Sink σ)
    (state : σ) (commands : List PipelineCommand) (definition : AlertDefinition)
    (configured : definition ∈ config.alerts) (id : EntityId) :
    let start : Journal σ := { pipeline := fresh.restore checkpoint, sinkState := state }
    start.views sink definition.id id (commands.filter (·.concerns definition id)) =
      start.views sink definition.id id commands := by
  intro start
  have serves := (Pipeline.serves_of_ofConfig distinct built).restore checkpoint
  exact views_filter_eq configured sink commands (.refl serves configured id)

/-- What is observed about one host does not show in the cycles of another one. -/
theorem entities_do_not_interfere_two_hosts :
    let definition : AlertDefinition := { id := 7, groupBy := some ["host"] }
    let config : Config := { alerts := [definition] }
    let tagsOf (host : String) : Tags := SortedMap.ofList [("host", host)]
    let id := entityId definition.namespaceName 7 (tagsOf "db1")
    let own : Observation := ⟨none, 7, tagsOf "db1", .bad, 100⟩
    let foreign : Observation := ⟨none, 7, tagsOf "db2", .bad, 100⟩
    let commands : List PipelineCommand := [.observe foreign, .observe own, .cycle 100]
    let checkpoint : Checkpoint := ⟨Checkpoint.currentVersion, 90, ∅⟩
    ∃ fresh, Pipeline.ofConfig config = .ok fresh ∧ ∀ sink : Sink Nat,
      let start : Journal Nat := { pipeline := fresh.restore checkpoint, sinkState := 0 }
      commands.filter (·.concerns definition id) = [.observe own, .cycle 100] ∧
        start.views sink 7 id [.observe own, .cycle 100] = start.views sink 7 id commands := by
  intro definition config tagsOf id own foreign commands checkpoint
  have valid : config.validate = .ok () := by decide +kernel
  rcases Pipeline.exists_ofConfig (Config.buildable_of_validate valid) with ⟨fresh, built, -⟩
  refine ⟨fresh, built, ?_⟩
  intro sink start
  have reduced : commands.filter (·.concerns definition id) = [.observe own, .cycle 100] := by
    have elsewhere : (PipelineCommand.observe foreign).concerns definition id = false := by
      decide +kernel
    have here : (PipelineCommand.observe own).concerns definition id = true := by decide +kernel
    have cycles : (PipelineCommand.cycle 100).concerns definition id = true := rfl
    simp [commands, elsewhere, here, cycles]
  have same := entities_do_not_interfere config (by decide) fresh built checkpoint sink 0 commands
    definition (by simp [config]) id
  rw [reduced] at same
  exact ⟨reduced, same⟩

end Journal

end Alerting
