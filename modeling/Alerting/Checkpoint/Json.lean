import Alerting.Checkpoint
import Alerting.EntityRecord.Json

/-!
# Checkpoints as JSON

The alerts stand in an object whose member names are alert ids. Such a name must be the
plain decimal of the id, character by character: an escape is refused, whatever it
spells. Of two lists given for one alert the later one counts.
-/

namespace Alerting

namespace Checkpoint

def toJson (checkpoint : Checkpoint) : Json := .record [
  ("version", .ofNat checkpoint.version.toNat),
  ("taken_at", .ofInt64 checkpoint.takenAt),
  ("alerts", .object (checkpoint.alerts.toList.map fun alert =>
    (Json.decimal alert.1.toNat, .ofList EntityRecord.toJson alert.2)))]

/-- The alert that a member name denotes. -/
def alertId? (name : Bytes) : Option AlertId := Json.uint64? (.number name)

/-- Reads the records of every alert. -/
def alertsOfJson? : Json → Option (SortedMap AlertId (List EntityRecord))
  | .object members => do
    let entries ← members.mapM fun member => do
      some (← alertId? member.1, ← Json.list? EntityRecord.ofJson? member.2)
    some (SortedMap.ofList entries)
  | _ => none

def ofJson? (json : Json) : Option Checkpoint := do
  match ← Json.fields? .json .ignored ["version", "taken_at", "alerts"] json with
  | [version, takenAt, alerts] =>
    some {
      version := ← Json.required Json.uint32? version
      takenAt := ← Json.required Json.int64? takenAt
      alerts := ← Json.required alertsOfJson? alerts }
  | _ => none

end Checkpoint

end Alerting
