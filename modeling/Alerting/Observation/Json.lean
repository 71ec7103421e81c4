import Alerting.Alert.Json
import Alerting.Observation

/-!
# Observations as JSON

The namespace may be left out or `null`; the tags may be left out.
-/

namespace Alerting

namespace Observation

def ofJson? (json : Json) : Option Observation := do
  match ← Json.fields? .json .ignored
      ["namespace", "alert_id", "tags", "state", "timestamp"] json with
  | [namespaceName, alertId, tags, severity, timestamp] =>
    some {
      namespaceName := ← Json.nullable Json.text? namespaceName
      alertId := ← Json.required Json.uint64? alertId
      tags := ← Json.withDefault ∅ Tags.ofJson? tags
      severity := ← Json.required Severity.ofJson? severity
      timestamp := ← Json.required Json.int64? timestamp }
  | _ => none

end Observation

end Alerting
