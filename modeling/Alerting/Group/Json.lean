import Alerting.Alert.Json
import Alerting.Group

/-!
# Alert groups as JSON
-/

namespace Alerting

open Json (required)

namespace GroupKey

def toJson (key : GroupKey) : Json := .record [
  ("namespace", .ofText key.namespaceName),
  ("alert_id", .ofUInt64 key.alertId),
  ("alert_type", key.kind.toJson),
  ("keys", .ofList Json.ofText key.keys),
  ("values", .ofList (Json.ofOption Json.ofText) key.values)]

def ofJson? (json : Json) : Option GroupKey := do
  match ← Json.fields? .json .ignored
      ["namespace", "alert_id", "alert_type", "keys", "values"] json with
  | [namespaceName, alertId, kind, keys, values] =>
    some {
      namespaceName := ← required Json.text? namespaceName
      alertId := ← required Json.uint64? alertId
      kind := ← required AlertKind.ofJson? kind
      keys := ← required (Json.list? Json.text?) keys
      values := ← required (Json.list? (Json.optional? Json.text?)) values }
  | _ => none

end GroupKey

namespace AlertGroup

def toJson (group : AlertGroup) : Json := .record [
  ("key", group.key.toJson),
  ("alerts", .ofList Alert.toJson group.alerts)]

def ofJson? (json : Json) : Option AlertGroup := do
  match ← Json.fields? .json .ignored ["key", "alerts"] json with
  | [key, alerts] =>
    some {
      key := ← required GroupKey.ofJson? key
      alerts := ← required (Json.list? Alert.ofJson?) alerts }
  | _ => none

end AlertGroup

end Alerting
