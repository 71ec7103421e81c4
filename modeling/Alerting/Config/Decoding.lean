import Alerting.Alert.Json
import Alerting.Config
import Alerting.Transition.Json

/-!
# Reading a configuration

A configuration is a record of records in either notation. Everything may be left out
but the id of an alert, and a member that names no setting is refused, inside the
transition rules apart.
-/

namespace Alerting

open Json (required withDefault nullable)

namespace SocketAddress

def ofJson? (json : Json) : Option SocketAddress := json.text?.bind ofText?

end SocketAddress

namespace AlertDefinition

def read? (dialect : Json.Dialect) (json : Json) : Option AlertDefinition := do
  let blank : AlertDefinition := { id := 0 }
  match ← Json.fields? dialect .refused
      ["id", "namespace", "type", "nag_interval_secs", "preserve_identity",
        "missing_after_secs", "group_by", "transitions"] json with
  | [id, namespaceName, kind, nagInterval, preservesIdentity, missingAfter, groupBy,
      transitions] =>
    some {
      id := ← required Json.uint64? id
      namespaceName := ← withDefault blank.namespaceName Json.text? namespaceName
      kind := ← withDefault blank.kind (AlertKind.read? dialect) kind
      nagInterval := ← nullable Json.uint64? nagInterval
      preservesIdentity := ← withDefault blank.preservesIdentity Json.bool? preservesIdentity
      missingAfter := ← nullable Json.uint64? missingAfter
      groupBy := ← nullable (Json.list? Json.text?) groupBy
      transitions := ← withDefault blank.transitions (TransitionRules.read? dialect)
        transitions }
  | _ => none

end AlertDefinition

namespace Config

/-- Reads one table of settings into a configuration. -/
abbrev TableReader := Config → Json → Option Config

def readEvaluation (dialect : Json.Dialect) : TableReader := fun config json => do
  match ← Json.fields? dialect .refused ["interval_secs"] json with
  | [interval] => some { config with
      evaluationInterval := ← withDefault config.evaluationInterval Json.uint64? interval }
  | _ => none

def readGrouping (dialect : Json.Dialect) : TableReader := fun config json => do
  match ← Json.fields? dialect .refused ["flush_frequency_ms", "stop_timeout_secs"] json with
  | [frequency, timeout] => some { config with
      flushFrequency := ← withDefault config.flushFrequency Json.uint64? frequency
      stopTimeout := ← withDefault config.stopTimeout Json.uint64? timeout }
  | _ => none

def readPurge (dialect : Json.Dialect) : TableReader := fun config json => do
  match ← Json.fields? dialect .refused ["window_secs", "first_run_window_secs"] json with
  | [window, firstRunWindow] => some { config with
      purgeWindow := ← withDefault config.purgeWindow Json.uint64? window
      firstRunPurgeWindow :=
        ← withDefault config.firstRunPurgeWindow Json.uint64? firstRunWindow }
  | _ => none

def readEmitter (dialect : Json.Dialect) : TableReader := fun config json => do
  match ← Json.fields? dialect .refused ["workers", "queue_capacity"] json with
  | [workers, capacity] => some { config with
      workers := ← withDefault config.workers Json.uint64? workers
      queueCapacity := ← withDefault config.queueCapacity Json.uint64? capacity }
  | _ => none

def readCheckpoint (dialect : Json.Dialect) : TableReader := fun config json => do
  match ← Json.fields? dialect .refused ["path", "interval_secs"] json with
  | [path, interval] => some { config with
      checkpointPath := ← nullable Json.text? path
      checkpointInterval := ← nullable Json.uint64? interval }
  | _ => none

def readMetrics (dialect : Json.Dialect) : TableReader := fun config json => do
  match ← Json.fields? dialect .refused ["listen"] json with
  | [address] => some { config with
      metricsAddress := ← nullable SocketAddress.ofJson? address }
  | _ => none

def readAlerts (dialect : Json.Dialect) : TableReader := fun config json => do
  some { config with alerts := ← Json.list? (AlertDefinition.read? dialect) json }

/-- The tables of a configuration and their readers. -/
def tables (dialect : Json.Dialect) : List (String × TableReader) :=
  [("evaluation", readEvaluation dialect), ("groupby", readGrouping dialect),
    ("purge", readPurge dialect), ("emitter", readEmitter dialect),
    ("checkpoint", readCheckpoint dialect), ("metrics", readMetrics dialect),
    ("alerts", readAlerts dialect)]

/-- Reads a configuration in either notation. -/
def read? (dialect : Json.Dialect) (json : Json) : Option Config := do
  let values ← Json.fields? dialect .refused ((tables dialect).map Prod.fst) json
  ((tables dialect).zip values).foldlM
    (fun config (table, value) =>
      match value with
      | none => some config
      | some value => table.2 config value)
    {}

def ofJson? : Json → Option Config := read? .json

end Config

end Alerting
