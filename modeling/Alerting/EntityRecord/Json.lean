import Alerting.Alert.Json
import Alerting.EntityRecord

/-!
# Entity records as JSON

An absent field is not written, and an absent field and `null` are read alike.
-/

namespace Alerting

namespace EntityRecord

/-- A member for a value that may be absent. -/
def memberIfPresent {α : Type} (name : String) (write : α → Json) :
    Option α → List (String × Json)
  | none => []
  | some value => [(name, write value)]

def toJson (entry : EntityRecord) : Json := .record <|
  ("state_id", .ofUInt64 entry.entity) ::
    (memberIfPresent "tags" Tags.toJson entry.tags ++
      memberIfPresent "current_state" Severity.toJson entry.current ++
      memberIfPresent "previous_state" Severity.toJson entry.previous ++
      memberIfPresent "last_seen" Json.ofInt64 entry.lastSeen ++
      memberIfPresent "nag_timestamp" Json.ofInt64 entry.nagTimestamp)

def ofJson? (json : Json) : Option EntityRecord := do
  match ← Json.fields? .json .ignored
      ["state_id", "tags", "current_state", "previous_state", "last_seen", "nag_timestamp"]
      json with
  | [entity, tags, current, previous, lastSeen, nagTimestamp] =>
    some {
      entity := ← Json.required Json.uint64? entity
      tags := ← Json.nullable Tags.ofJson? tags
      current := ← Json.nullable Severity.ofJson? current
      previous := ← Json.nullable Severity.ofJson? previous
      lastSeen := ← Json.nullable Json.int64? lastSeen
      nagTimestamp := ← Json.nullable Json.int64? nagTimestamp }
  | _ => none

end EntityRecord

end Alerting
