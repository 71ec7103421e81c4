import Alerting.Json.Record
import Alerting.Transition

/-!
# Transition rules as JSON

Every rule may be left out; unknown members are ignored, in a configuration too.
-/

namespace Alerting

namespace TransitionRules

def toJson (rules : TransitionRules) : Json := .record [
  ("notify_on_recovery", .bool rules.onRecovery),
  ("notify_on_warn", .bool rules.onWarn),
  ("notify_on_missing", .bool rules.onMissing),
  ("notify_on_unknown", .bool rules.onUnknown)]

/-- Reads rules in either notation. -/
def read? (dialect : Json.Dialect) (json : Json) : Option TransitionRules := do
  match ← Json.fields? dialect .ignored
      ["notify_on_recovery", "notify_on_warn", "notify_on_missing", "notify_on_unknown"]
      json with
  | [onRecovery, onWarn, onMissing, onUnknown] =>
    some {
      onRecovery := ← Json.withDefault unhealthyOnly.onRecovery Json.bool? onRecovery
      onWarn := ← Json.withDefault unhealthyOnly.onWarn Json.bool? onWarn
      onMissing := ← Json.withDefault unhealthyOnly.onMissing Json.bool? onMissing
      onUnknown := ← Json.withDefault unhealthyOnly.onUnknown Json.bool? onUnknown }
  | _ => none

def ofJson? : Json → Option TransitionRules := read? .json

end TransitionRules

end Alerting
