import Alerting.Checkpoint.Document
import Alerting.Proofs.Alert.RoundTrip

/-!
# Checkpoints are read as they were written

Every part of a checkpoint has a faithful written form, so that a document of the current
version is loaded as exactly the checkpoint that it was written from.
-/

namespace Alerting

open Json (Faithful)

/-! ## Entity records -/

/-- The fields of a record, with the values that are written. -/
def EntityRecord.fields (entry : EntityRecord) : List (String × Option Json) :=
  [("state_id", some (.ofUInt64 entry.entity)), ("tags", entry.tags.map Tags.toJson),
    ("current_state", entry.current.map Severity.toJson),
    ("previous_state", entry.previous.map Severity.toJson),
    ("last_seen", entry.lastSeen.map Json.ofInt64),
    ("nag_timestamp", entry.nagTimestamp.map Json.ofInt64)]

theorem EntityRecord.toJson_eq (entry : EntityRecord) :
    entry.toJson = .record (Json.presentMembers entry.fields) := by
  rcases entry with ⟨entity, tags, current, previous, lastSeen, nagTimestamp⟩
  cases tags <;> cases current <;> cases previous <;> cases lastSeen <;> cases nagTimestamp <;> rfl

theorem EntityRecord.faithful : Faithful EntityRecord.toJson EntityRecord.ofJson? where
  spelled entry := by
    rw [toJson_eq]
    apply Json.wellSpelled_record
    intro member present
    have given := Json.mem_presentMembers.1 present
    simp only [fields, List.mem_cons, List.not_mem_nil, or_false, Prod.mk.injEq] at given
    rcases given with ⟨-, entity⟩ | ⟨-, tags⟩ | ⟨-, current⟩ | ⟨-, previous⟩ | ⟨-, lastSeen⟩ |
      ⟨-, nagTimestamp⟩
    · exact Option.some.inj entity ▸ Json.faithful_uint64.spelled _
    · exact Tags.faithful.spelled_of_map_eq tags.symm
    · exact Severity.faithful.spelled_of_map_eq current.symm
    · exact Severity.faithful.spelled_of_map_eq previous.symm
    · exact Json.faithful_int64.spelled_of_map_eq lastSeen.symm
    · exact Json.faithful_int64.spelled_of_map_eq nagTimestamp.symm
  reads entry := by
    have distinct : (entry.fields.map Prod.fst).Nodup := by
      change ["state_id", "tags", "current_state", "previous_state", "last_seen",
        "nag_timestamp"].Nodup
      decide
    have given := Json.fields?_record .json .ignored distinct
    have entity : Json.required Json.uint64? (some (Json.ofUInt64 entry.entity)) =
        some entry.entity := Json.faithful_uint64.reads _
    have tags := Tags.faithful.nullable_map (fun _ => rfl) entry.tags
    have current := Severity.faithful.nullable_map (fun _ => rfl) entry.current
    have previous := Severity.faithful.nullable_map (fun _ => rfl) entry.previous
    have lastSeen := Json.faithful_int64.nullable_map (fun _ => rfl) entry.lastSeen
    have nagTimestamp := Json.faithful_int64.nullable_map (fun _ => rfl) entry.nagTimestamp
    simp only [fields, List.map_cons, List.map_nil] at given
    rw [toJson_eq, ofJson?]
    simp only [fields, given, Option.bind_eq_bind, Option.bind_some, entity, tags, current,
      previous, lastSeen, nagTimestamp]

/-! ## Checkpoints -/

namespace Checkpoint

/-- The member names of the alerts are their ids in digits. -/
theorem alertId?_decimal (id : AlertId) : alertId? (Json.decimal id.toNat) = some id :=
  Json.faithful_uint64.reads id

theorem alertsOfJson?_eq (alerts : SortedMap AlertId (List EntityRecord)) :
    alertsOfJson? (.object (alerts.toList.map fun alert =>
      (Json.decimal alert.1.toNat, .ofList EntityRecord.toJson alert.2))) = some alerts := by
  have entries : (alerts.toList.map fun alert =>
        (Json.decimal alert.1.toNat, Json.ofList EntityRecord.toJson alert.2)).mapM
        (fun member => do
          some (← alertId? member.1, ← Json.list? EntityRecord.ofJson? member.2)) =
      some alerts.toList := by
    refine (Json.mapM_map_eq_some fun alert _ => ?_).trans (by rw [List.map_id'])
    simp only [alertId?_decimal, EntityRecord.faithful.list.reads, Option.bind_eq_bind,
      Option.bind_some]
  rw [alertsOfJson?, entries]
  simp only [Option.bind_eq_bind, Option.bind_some, SortedMap.ofList_toList]

theorem faithful : Faithful toJson ofJson? where
  spelled checkpoint := by
    apply Json.wellSpelled_record
    intro member inMembers
    simp only [List.mem_cons, List.not_mem_nil, or_false] at inMembers
    rcases inMembers with rfl | rfl | rfl
    · exact Json.faithful_uint32.spelled _
    · exact Json.faithful_int64.spelled _
    · constructor
      · intro alert inAlerts
        rcases List.mem_map.1 inAlerts with ⟨⟨id, entries⟩, -, rfl⟩
        exact Json.isString_of_isDigit fun byte => Json.isDigit_of_mem_decimal
      · intro alert inAlerts
        rcases List.mem_map.1 inAlerts with ⟨⟨id, entries⟩, -, rfl⟩
        exact EntityRecord.faithful.list.spelled entries
  reads checkpoint := by
    rw [ofJson?, toJson, Json.fields?_record_of_members .json .ignored (by rfl) (by decide)]
    simp only [List.map_cons, List.map_nil, Option.bind_eq_bind, Option.bind_some, Json.required,
      Json.faithful_uint32.reads checkpoint.version, Json.faithful_int64.reads,
      alertsOfJson?_eq]

/-- A document is read as the checkpoint that it was written from. -/
theorem ofDocument?_document (checkpoint : Checkpoint) :
    ofDocument? checkpoint.document = some checkpoint :=
  faithful.read_print checkpoint rfl

/-- A document of the current version is loaded as the checkpoint that it was written from. -/
theorem load_document {checkpoint : Checkpoint} (current : checkpoint.version = currentVersion)
    (path : String) : load path (.bytes checkpoint.document) = .ok (some checkpoint) := by
  rw [load, ofDocument?_document]
  simp only [current, if_true]

end Checkpoint

end Alerting
