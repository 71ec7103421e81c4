import Alerting.Identity
import Alerting.Instant
import Alerting.Severity

/-!
# Observations

One data point for one entity, as it comes in.
-/

namespace Alerting

/-- One reported severity of one entity. -/
structure Observation where
  /-- The namespace of the alert, if the sender names one. -/
  namespaceName : Option String
  alertId : AlertId
  tags : Tags
  severity : Severity
  timestamp : Instant
  deriving DecidableEq

end Alerting
