import Alerting.Alert
import Alerting.Flush.Frequency
import Alerting.Group.Rules
import Alerting.Purge
import Alerting.SocketAddress
import Alerting.Staleness

/-!
# Configurations

The settings of the whole program: the definitions of the alerts, and how they are
evaluated, grouped, emitted and kept. Settings are held as they were given; what they
are used for is built from them by functions that reject what cannot be used.
-/

namespace Alerting

/-- One configured alert. -/
structure AlertDefinition where
  id : AlertId
  namespaceName : String := "default"
  kind : AlertKind := .metric
  /-- The time between repeated notifications; without it there are none. -/
  nagInterval : Option Seconds := none
  preservesIdentity : Bool := false
  /-- The silence after which an entity is missing; without it none ever is. -/
  missingAfter : Option Seconds := none
  /-- The tags that notifications are grouped by. -/
  groupBy : Option (List String) := none
  transitions : TransitionRules := .unhealthyOnly
  deriving DecidableEq

/-- The settings of the program. -/
structure Config where
  evaluationInterval : Seconds := 60
  /-- The flush frequency in milliseconds. -/
  flushFrequency : UInt64 := 60000
  /-- How long to wait for a flush at the end. -/
  stopTimeout : Seconds := 10
  purgeWindow : Seconds := 86400
  firstRunPurgeWindow : Seconds := 604800
  workers : UInt64 := 2
  queueCapacity : UInt64 := 1024
  checkpointPath : Option String := none
  /-- The time between two checkpoints; without it one is written at the end only. -/
  checkpointInterval : Option Seconds := none
  /-- Where metrics are served, if they are. -/
  metricsAddress : Option SocketAddress := none
  alerts : List AlertDefinition := []
  deriving DecidableEq

/-- Why a configuration cannot be used. -/
inductive ConfigError where
  | zeroEvaluationInterval
  | zeroWorkers
  | zeroQueueCapacity
  | zeroCheckpointInterval
  | grouping (error : SettingError)
  | purge (error : SettingError)
  | duplicateAlert (id : AlertId)
  | alert (id : AlertId) (error : SettingError)
  | blankGroupingTag (id : AlertId)
  deriving DecidableEq, Repr

namespace ConfigError

/-- What the operator is told about the context of an error, and about its cause if the two differ. -/
def parts : ConfigError → List String
  | .zeroEvaluationInterval => ["evaluation.interval_secs must be positive"]
  | .zeroWorkers => ["emitter.workers must be positive"]
  | .zeroQueueCapacity => ["emitter.queue_capacity must be positive"]
  | .zeroCheckpointInterval => ["checkpoint.interval_secs must be positive"]
  | .grouping error => ["groupby", error.message]
  | .purge error => ["purge", error.message]
  | .duplicateAlert id => [s!"duplicate alert id {id}"]
  | .alert id error => [s!"alert {id}", error.message]
  | .blankGroupingTag id => [s!"alert {id}: group_by contains an empty tag key"]

/-- What the operator is told. -/
def message (error : ConfigError) : String := String.intercalate ": " error.parts

/-- The outermost part of the message. -/
def headline (error : ConfigError) : String := error.parts.headD ""

end ConfigError

namespace AlertDefinition

/-- The settings of the alert's store. -/
def storeConfig (definition : AlertDefinition) : Except ConfigError StoreConfig :=
  match NagInterval.ofSeconds definition.nagInterval with
  | .error error => .error (.alert definition.id error)
  | .ok nagInterval => .ok ⟨nagInterval, definition.preservesIdentity⟩

/-- The longest silence that the alert allows, if it limits silence at all. -/
def stalenessLimit (definition : AlertDefinition) :
    Except ConfigError (Option StalenessLimit) :=
  match definition.missingAfter with
  | none => .ok none
  | some seconds =>
    match StalenessLimit.ofSeconds seconds with
    | .error error => .error (.alert definition.id error)
    | .ok limit => .ok (some limit)

end AlertDefinition

namespace Config

def frequency (config : Config) : Except ConfigError FlushFrequency :=
  (FlushFrequency.ofMilliseconds config.flushFrequency).mapError .grouping

def purgePolicy (config : Config) : Except ConfigError PurgePolicy :=
  (PurgePolicy.ofWindows config.purgeWindow config.firstRunPurgeWindow).mapError .purge

/-- The grouping rules of every alert that has some; of two definitions the later one counts. -/
def groupingRules (config : Config) : GroupingRules :=
  SortedMap.ofList <| config.alerts.filterMap fun definition =>
    definition.groupBy.map fun names => (definition.id, names)

end Config

end Alerting
