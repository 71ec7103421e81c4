import Alerting.SortedMap

/-!
# Tags

The tags of an entity name one time series: a finite map from tag keys to values, which
lists its keys in the order of their code points.
-/

namespace Alerting

/-- The tags of an entity. -/
abbrev Tags := SortedMap String String

end Alerting
