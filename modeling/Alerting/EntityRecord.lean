import Alerting.Identity
import Alerting.Instant
import Alerting.Severity

/-!
# Entity records

What is known about one entity, as it is kept outside a store. A record may leave fields
out; what it leaves out it does not speak about.
-/

namespace Alerting

/-- A possibly incomplete account of one entity. -/
structure EntityRecord where
  entity : EntityId
  tags : Option Tags := none
  current : Option Severity := none
  previous : Option Severity := none
  lastSeen : Option Instant := none
  nagTimestamp : Option Instant := none
  deriving DecidableEq

end Alerting
