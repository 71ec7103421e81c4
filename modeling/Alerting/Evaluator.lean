import Alerting.Config
import Alerting.Metrics
import Alerting.Observation

/-!
# Evaluators

An evaluator owns the store of one alert. Observations gather until the next cycle. A
cycle takes them newest first, so that the newest one decides about its entity; then it
looks for missing entities, and at last it forgets those that were silent for too long.
-/

namespace Alerting

/-- The store of one alert and the observations that wait for the next cycle. -/
structure Evaluator where
  alertId : AlertId
  namespaceName : String
  kind : AlertKind
  store : Store
  staleness : Option StalenessLimit
  /-- The waiting observations, the last received first. -/
  pending : List Observation := []
  isFirstRun : Bool := true

/-- What a cycle brought. -/
structure CycleOutcome where
  alerts : List Alert
  observed : Nat
  missing : Nat
  purged : Nat
  deriving DecidableEq

namespace Evaluator

/-- The evaluator of a definition, before its first cycle. -/
def ofDefinition (definition : AlertDefinition) : Except ConfigError Evaluator := do
  let config ← definition.storeConfig
  let staleness ← definition.stalenessLimit
  .ok {
    alertId := definition.id
    namespaceName := definition.namespaceName
    kind := definition.kind
    store := .empty config definition.transitions.policy
    staleness }

/--
An observation that names a namespace must name the alert's: the identities and group
keys of its entities are derived from that one.
-/
def accepts (evaluator : Evaluator) (observation : Observation) : Bool :=
  observation.namespaceName.all (· == evaluator.namespaceName)

/-- Keeps an accepted observation for the next cycle. -/
def observe (evaluator : Evaluator) (observation : Observation) : Evaluator :=
  { evaluator with pending := observation :: evaluator.pending }

/-- Newest first; of observations with one timestamp the last received comes first. -/
def newestFirst (pending : List Observation) : List Observation :=
  pending.mergeSort fun first second => second.timestamp ≤ first.timestamp

/-- The alert that a change calls for. -/
def alertOf (evaluator : Evaluator) (id : EntityId) (tags : Tags) (change : StateChange)
    (now : Instant) : Alert where
  namespaceName := evaluator.namespaceName
  alertId := evaluator.alertId
  kind := evaluator.kind
  entity := id
  tags := tags
  severity := change.new
  previous := change.previous
  isNag := change.isNag
  raisedAt := now

/-- The identity of the entity that an observation is about. -/
def identify (evaluator : Evaluator) (observation : Observation) : EntityId :=
  entityId evaluator.namespaceName evaluator.alertId observation.tags

/-- Takes one observation into a store. -/
def applyOne (evaluator : Evaluator) (now : Instant) (observation : Observation)
    (store : Store) : Option Alert × Store :=
  let id := evaluator.identify observation
  let (change, store) :=
    (store.see id observation.tags observation.timestamp).raise id observation.severity now
  (if change.shouldRaise then some (evaluator.alertOf id observation.tags change now) else none,
    store)

/-- Takes observations into a store, in the given order. -/
def applyAll (evaluator : Evaluator) (now : Instant) :
    List Observation → Store → List Alert × Store
  | [], store => ([], store)
  | observation :: rest, store =>
    let (alert?, store) := evaluator.applyOne now observation store
    let (alerts, store) := applyAll evaluator now rest store
    (alert?.toList ++ alerts, store)

/-- Decides `missing` for the entities that were silent for too long. -/
def detectMissing (evaluator : Evaluator) (now : Instant) (store : Store) :
    List Alert × Store :=
  match evaluator.staleness with
  | none => ([], store)
  | some limit =>
    let (entities, store) := limit.detect store now
    (entities.map fun entity =>
      evaluator.alertOf entity.entity (entity.tags.getD ∅) entity.change now, store)

/--
A cycle up to its purge: the alerts about entities that were observed, those about
missing ones, and the store they leave.
-/
def evaluateAll (evaluator : Evaluator) (now : Instant) : List Alert × List Alert × Store :=
  let (live, store) :=
    evaluator.applyAll now (newestFirst evaluator.pending) evaluator.store.newRun
  let (missing, store) := evaluator.detectMissing now store
  (live, missing, store)

/-- Runs one cycle, at whose end the rule says which entities are forgotten. -/
def cycleUnder (evaluator : Evaluator) (rule : CutoffRule) (now : Instant) :
    CycleOutcome × Evaluator :=
  let (live, missing, store) := evaluator.evaluateAll now
  let (purged, store) := store.purge (rule now evaluator.isFirstRun)
  ({ alerts := live ++ missing
     observed := evaluator.pending.length
     missing := missing.length
     purged },
    { evaluator with store, pending := [], isFirstRun := false })

/-- Runs one cycle under a purge policy. -/
def cycle (evaluator : Evaluator) (purge : PurgePolicy) (now : Instant) :
    CycleOutcome × Evaluator :=
  evaluator.cycleUnder purge.cutoff now

/-- Full accounts of all entities. -/
def records (evaluator : Evaluator) : List EntityRecord := evaluator.store.records

/-- Takes over records. The next cycle still counts as the first run. -/
def restore (evaluator : Evaluator) (entries : List EntityRecord) : Evaluator :=
  { evaluator with store := evaluator.store.restore entries }

end Evaluator

namespace EvaluationMetrics

/-- Counts what a cycle of one alert brought. -/
def record (metrics : EvaluationMetrics) (alert : AlertId) (outcome : CycleOutcome) :
    EvaluationMetrics :=
  let nags := (outcome.alerts.filter fun alert => alert.isNag).length
  { purged := metrics.purged.increase alert outcome.purged
    raised := metrics.raised.increase alert (outcome.alerts.length - nags)
    nagged := metrics.nagged.increase alert nags }

end EvaluationMetrics

end Alerting
