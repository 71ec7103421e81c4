import Alerting.Blank
import Alerting.Config

/-!
# Validating a configuration

A configuration is rejected for the first thing, in a fixed order, that the program
cannot run with.
-/

namespace Alerting

namespace AlertDefinition

/-- Checks one definition. -/
def validate (definition : AlertDefinition) : Except ConfigError Unit := do
  let _ ← definition.storeConfig
  let _ ← definition.stalenessLimit
  if (definition.groupBy.getD []).any isBlankText then
    .error (.blankGroupingTag definition.id)

end AlertDefinition

namespace Config

/-- Rejects a setting of zero. -/
def requirePositive (value : UInt64) (error : ConfigError) : Except ConfigError Unit :=
  if value = 0 then .error error else .ok ()

/-- Checks definitions in order; `seen` are the alerts defined before. -/
def validateAlerts (seen : List AlertId) : List AlertDefinition → Except ConfigError Unit
  | [] => .ok ()
  | definition :: rest => do
    if seen.contains definition.id then .error (.duplicateAlert definition.id)
    definition.validate
    validateAlerts (definition.id :: seen) rest

/-- Accepts what the program can run with. -/
def validate (config : Config) : Except ConfigError Unit := do
  requirePositive config.evaluationInterval .zeroEvaluationInterval
  requirePositive config.workers .zeroWorkers
  requirePositive config.queueCapacity .zeroQueueCapacity
  match config.checkpointInterval with
  | none => pure ()
  | some interval => requirePositive interval .zeroCheckpointInterval
  let _ ← config.frequency
  let _ ← config.purgePolicy
  validateAlerts [] config.alerts

end Config

end Alerting
