import Alerting.Calendar
import Alerting.Checkpoint.Json
import Alerting.Json.Printer

/-!
# Summaries of checkpoints

What a checkpoint holds, per alert: how many entities there are in which severity, and
when the newest data point came in. A record without a severity counts as good, as it
would in a store.
-/

namespace Alerting

/-- What a checkpoint holds of one alert. -/
structure AlertSummary where
  alertId : AlertId
  entities : Nat
  /-- The severities that occur, in order, and how often. -/
  severities : List (Severity × Nat)
  newestSeen : Option Instant
  deriving DecidableEq

namespace AlertSummary

/-- How many records have a severity. -/
def countOf (entries : List EntityRecord) (severity : Severity) : Nat :=
  (entries.filter fun entry => entry.current.getD .good = severity).length

/-- The later of two times, one of which may be absent. -/
def later (first second : Option Instant) : Option Instant :=
  match first, second with
  | none, time => time
  | time, none => time
  | some first, some second => some (if first < second then second else first)

def ofRecords (alertId : AlertId) (entries : List EntityRecord) : AlertSummary where
  alertId := alertId
  entities := entries.length
  severities := (Severity.all.map fun severity => (severity, countOf entries severity)).filter
    fun count => count.2 ≠ 0
  newestSeen := (entries.map fun entry => entry.lastSeen).foldl later none

/-- A text with at least `width` characters, filled up with spaces at its end. -/
def padRight (width : Nat) (text : String) : String :=
  text ++ String.ofList (List.replicate (width - text.length) ' ')

/-- One line about one alert. -/
def line (summary : AlertSummary) : String :=
  "  alert " ++ padRight 8 (toString summary.alertId) ++ " entities=" ++
    padRight 6 (toString summary.entities) ++ " " ++
    String.intercalate " "
      (summary.severities.map fun count => count.1.name ++ "=" ++ toString count.2) ++ "\n"

def toJson (summary : AlertSummary) : Json := .record [
  ("alert_id", .ofUInt64 summary.alertId),
  ("entities", .ofNat summary.entities),
  ("states", .record (summary.severities.map fun count => (count.1.name, .ofNat count.2))),
  ("newest_seen", .ofOption Json.ofInt64 summary.newestSeen)]

end AlertSummary

namespace Checkpoint

/-- What a checkpoint holds, alert by alert. -/
def summaries (checkpoint : Checkpoint) : List AlertSummary :=
  checkpoint.alerts.toList.map fun alert => .ofRecords alert.1 alert.2

/-- The summary for people. -/
def summaryText (checkpoint : Checkpoint) : String :=
  "checkpoint v" ++ toString checkpoint.version.toNat ++ " taken " ++
    checkpoint.takenAt.display ++ ": " ++ toString checkpoint.alerts.size ++ " alerts, " ++
    toString checkpoint.entityCount ++ " entities\n" ++
    String.join (checkpoint.summaries.map AlertSummary.line)

/-- The summary for programs. -/
def summaryJson (checkpoint : Checkpoint) : Json := .ofList AlertSummary.toJson checkpoint.summaries

/-- What an inspection prints. -/
def inspection (checkpoint : Checkpoint) (asJson : Bool) : Bytes :=
  if asJson then checkpoint.summaryJson.printIndented 0 ++ [0x0a]
  else Bytes.ofText checkpoint.summaryText

end Checkpoint

end Alerting
