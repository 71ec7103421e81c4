import Alerting.Group.Key

/-!
# Alert groups

The alerts that gathered under one key between two flushes, in the order they came.
-/

namespace Alerting

/-- The alerts of one key. -/
structure AlertGroup where
  key : GroupKey
  alerts : List Alert
  deriving DecidableEq

/-- Groups in the order of their keys. -/
def AlertGroup.sorted (groups : List AlertGroup) : List AlertGroup :=
  groups.mergeSort fun first second => (first.key.order second.key).isLE

end Alerting
