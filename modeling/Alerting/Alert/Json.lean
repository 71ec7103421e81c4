import Alerting.Alert
import Alerting.Json.Record

/-!
# Alerts as JSON

The written forms of severities, kinds, tags, state changes and alerts, each beside the
reader that accepts it.
-/

namespace Alerting

open Json (required)

namespace Severity

def toJson (severity : Severity) : Json := .ofText severity.name

def ofJson? : Json → Option Severity :=
  Json.alternative? .json (all.map fun severity => (severity.name, severity))

end Severity

namespace AlertKind

def toJson (kind : AlertKind) : Json := .ofText kind.name

/-- Reads a kind in either notation. -/
def read? (dialect : Json.Dialect) : Json → Option AlertKind :=
  Json.alternative? dialect [(metric.name, metric), (healthcheck.name, healthcheck)]

def ofJson? : Json → Option AlertKind := read? .json

end AlertKind

namespace Tags

def toJson (tags : Tags) : Json := .record (tags.toList.map fun tag => (tag.1, .ofText tag.2))

/-- Of two values given for one key the later one counts. -/
def ofJson? : Json → Option Tags
  | .object members => do
    let named ← Json.namedMembers? members
    let entries ← named.mapM fun member => member.2.text?.map fun value => (member.1, value)
    some (SortedMap.ofList entries)
  | _ => none

end Tags

namespace StateChange

def toJson (change : StateChange) : Json := .record [
  ("previous_state", change.previous.toJson),
  ("new_state", change.new.toJson),
  ("is_nag", .bool change.isNag),
  ("should_raise", .bool change.shouldRaise)]

def ofJson? (json : Json) : Option StateChange := do
  match ← Json.fields? .json .ignored
      ["previous_state", "new_state", "is_nag", "should_raise"] json with
  | [previous, new, isNag, shouldRaise] =>
    some {
      previous := ← required Severity.ofJson? previous
      new := ← required Severity.ofJson? new
      isNag := ← required Json.bool? isNag
      shouldRaise := ← required Json.bool? shouldRaise }
  | _ => none

end StateChange

namespace Alert

def toJson (alert : Alert) : Json := .record [
  ("namespace", .ofText alert.namespaceName),
  ("alert_id", .ofUInt64 alert.alertId),
  ("alert_type", alert.kind.toJson),
  ("state_id", .ofUInt64 alert.entity),
  ("tags", Tags.toJson alert.tags),
  ("state", alert.severity.toJson),
  ("previous_state", alert.previous.toJson),
  ("is_nag", .bool alert.isNag),
  ("raised_at", .ofInt64 alert.raisedAt)]

def ofJson? (json : Json) : Option Alert := do
  match ← Json.fields? .json .ignored
      ["namespace", "alert_id", "alert_type", "state_id", "tags", "state", "previous_state",
        "is_nag", "raised_at"] json with
  | [namespaceName, alertId, kind, entity, tags, severity, previous, isNag, raisedAt] =>
    some {
      namespaceName := ← required Json.text? namespaceName
      alertId := ← required Json.uint64? alertId
      kind := ← required AlertKind.ofJson? kind
      entity := ← required Json.uint64? entity
      tags := ← required Tags.ofJson? tags
      severity := ← required Severity.ofJson? severity
      previous := ← required Severity.ofJson? previous
      isNag := ← required Json.bool? isNag
      raisedAt := ← required Json.int64? raisedAt }
  | _ => none

end Alert

end Alerting
