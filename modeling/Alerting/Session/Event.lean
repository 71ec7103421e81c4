import Alerting.Json.Record
import Alerting.Pipeline

/-!
# What happens in a session

The events of a session, for the operator. Each has a name and some fields.
-/

namespace Alerting

/-- Something that happened in a session. -/
inductive SessionEvent where
  /-- There was no checkpoint to restore. -/
  | coldStart
  | restored (takenAt : Instant) (records : Nat)
  /-- A checkpoint holds records of an alert that is no longer configured. -/
  | ignored (alert : AlertId) (records : Nat)
  | inputFinished (skipped : Nat)
  | inputFailed
  | finalCycle (raised dropped : Nat)
  | finalFlush (report : FlushReport) (submitFailures stranded : Nat)
  | checkpointWritten (records : Nat)
  /-- The emitters handed over all groups that they had accepted. -/
  | drained (emitted : Nat)
  deriving DecidableEq

namespace SessionEvent

def name : SessionEvent → String
  | .coldStart => "cold_start"
  | .restored .. => "restored"
  | .ignored .. => "ignored"
  | .inputFinished _ => "input_finished"
  | .inputFailed => "input_failed"
  | .finalCycle .. => "final_cycle"
  | .finalFlush .. => "final_flush"
  | .checkpointWritten _ => "checkpoint_written"
  | .drained _ => "drained"

def fields : SessionEvent → List (String × Json)
  | .coldStart | .inputFailed => []
  | .restored takenAt records => [("taken_at", .ofInt64 takenAt), ("restored", .ofNat records)]
  | .ignored alert records => [("alert_id", .ofUInt64 alert), ("entities", .ofNat records)]
  | .inputFinished skipped => [("skipped", .ofNat skipped)]
  | .finalCycle raised dropped =>
    [("raised", .ofNat raised), ("dropped_observations", .ofNat dropped)]
  | .finalFlush report submitFailures stranded => [
    ("groups", .ofNat report.groups), ("alerts", .ofNat report.alerts),
    ("failed", .ofNat report.failedGroups), ("submit_failures_total", .ofNat submitFailures),
    ("stranded_alerts_total", .ofNat stranded)]
  | .checkpointWritten records => [("entities", .ofNat records)]
  | .drained emitted => [("emitted", .ofNat emitted)]

end SessionEvent

end Alerting
