import Alerting.Group.Key

/-!
# Grouping rules

For each alert definition the tags that its alerts are grouped by. The alerts of a
definition without rules share one group, and count as stranded.
-/

namespace Alerting

/-- The names of the grouping tags, per alert definition. -/
abbrev GroupingRules := SortedMap AlertId (List String)

namespace GroupingRules

/-- Whether no rules apply to an alert. -/
def isStranded (rules : GroupingRules) (alert : Alert) : Bool := !rules.contains alert.alertId

/-- The key that an alert is batched under. -/
def keyOf (rules : GroupingRules) (alert : Alert) : GroupKey :=
  match rules.get? alert.alertId with
  | some names => .ofAlert alert names
  | none => .ungrouped alert

end GroupingRules

end Alerting
