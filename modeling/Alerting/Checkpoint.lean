import Alerting.EntityRecord

/-!
# Checkpoints

A checkpoint holds the entities of every alert at one moment. Only documents of the
current version are restored.
-/

namespace Alerting

/-- The entities of every alert at one moment. -/
structure Checkpoint where
  version : UInt32
  takenAt : Instant
  alerts : SortedMap AlertId (List EntityRecord)
  deriving DecidableEq

namespace Checkpoint

/-- The version that is written, and the only one that is restored. -/
def currentVersion : UInt32 := 1

/-- The number of entity records in all alerts. -/
def entityCount (checkpoint : Checkpoint) : Nat :=
  (checkpoint.alerts.toList.flatMap Prod.snd).length

end Checkpoint

end Alerting
