import Alerting.Identity
import Alerting.Instant
import Alerting.Severity

/-!
# Alerts

What an evaluation says about one entity (`StateChange`), and the occurrence that is
handed on when it says that somebody must be told (`Alert`).
-/

namespace Alerting

/-- The kind of definition an alert comes from. -/
inductive AlertKind where
  | metric
  | healthcheck
  deriving DecidableEq, Repr, Inhabited, Ord

/-- The written form of a kind. -/
def AlertKind.name : AlertKind → String
  | .metric => "metric"
  | .healthcheck => "healthcheck"

/-- The outcome of one evaluation of one entity. -/
structure StateChange where
  previous : Severity
  new : Severity
  /-- The notification repeats an earlier one about the same lasting severity. -/
  isNag : Bool
  shouldRaise : Bool
  deriving DecidableEq, Repr

/-- The outcome that notifies nobody. -/
def StateChange.silent (previous new : Severity) : StateChange := ⟨previous, new, false, false⟩

/-- One notification about one entity. -/
structure Alert where
  namespaceName : String
  alertId : AlertId
  kind : AlertKind
  entity : EntityId
  tags : Tags
  severity : Severity
  previous : Severity
  isNag : Bool
  raisedAt : Instant
  deriving DecidableEq

end Alerting
