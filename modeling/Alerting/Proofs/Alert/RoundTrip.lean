import Alerting.Alert.Json
import Alerting.Proofs.Json.Record
import Alerting.Proofs.SortedMap

/-!
# Alerts are read as they were written

Severities, kinds, tags and alerts have faithful written forms, whatever texts and numbers
they hold.
-/

namespace Alerting

open Json (Faithful)

theorem Severity.faithful : Faithful Severity.toJson Severity.ofJson? :=
  Json.faithful_alternative fun severity => by cases severity <;> decide

theorem AlertKind.faithful : Faithful AlertKind.toJson AlertKind.ofJson? :=
  Json.faithful_alternative fun kind => by cases kind <;> decide

theorem Tags.faithful : Faithful Tags.toJson Tags.ofJson? where
  spelled tags := by
    apply Json.wellSpelled_record
    intro member inMembers
    rcases List.mem_map.1 inMembers with ⟨tag, -, rfl⟩
    exact Json.faithful_text.spelled tag.2
  reads tags := by
    let members := tags.toList.map fun tag => (tag.1, Json.ofText tag.2)
    have named := Json.namedMembers?_record members
    have values : members.mapM (fun member => member.2.text?.map fun value => (member.1, value)) =
        some tags.toList := by
      refine (Json.mapM_map_eq_some fun tag _ => ?_).trans (by rw [List.map_id'])
      rw [Json.faithful_text.reads, Option.map_some]
    rw [Tags.toJson, Json.record, Tags.ofJson?, named]
    simp only [Option.bind_eq_bind, Option.bind_some, values, SortedMap.ofList_toList]

namespace Alert

theorem faithful : Faithful toJson ofJson? where
  spelled alert := by
    apply Json.wellSpelled_record
    simp only [List.forall_mem_cons]
    exact ⟨Json.faithful_text.spelled _, Json.faithful_uint64.spelled _,
      AlertKind.faithful.spelled _, Json.faithful_uint64.spelled _, Tags.faithful.spelled _,
      Severity.faithful.spelled _, Severity.faithful.spelled _, Json.faithful_bool.spelled _,
      Json.faithful_int64.spelled _, by simp⟩
  reads alert := by
    rw [ofJson?, toJson, Json.fields?_record_of_members .json .ignored (by rfl) (by decide)]
    simp only [List.map_cons, List.map_nil, Option.bind_eq_bind, Option.bind_some, Json.required,
      Json.faithful_text.reads, Json.faithful_uint64.reads, AlertKind.faithful.reads,
      Tags.faithful.reads, Severity.faithful.reads, Json.faithful_bool.reads,
      Json.faithful_int64.reads]

end Alert

end Alerting
