import Alerting.Bytes

/-!
# What stands at a path
-/

namespace Alerting

/-- What stands at a path. -/
inductive FileContent where
  | absent
  /-- Something that cannot be read, such as a directory. -/
  | unreadable
  | bytes (content : Bytes)
  deriving DecidableEq

end Alerting
