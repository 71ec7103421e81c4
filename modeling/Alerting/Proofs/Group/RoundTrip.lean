import Alerting.Group.Json
import Alerting.Proofs.Alert.RoundTrip

/-!
# Alert groups are read as they were written

A key keeps an absent value apart from every text, and the order of the alerts of a group
is kept.
-/

namespace Alerting

open Json (Faithful)

namespace GroupKey

theorem faithful_values :
    Faithful (Json.ofList (Json.ofOption Json.ofText)) (Json.list? (Json.optional? Json.text?)) :=
  (Json.faithful_text.option fun _ => rfl).list

theorem faithful : Faithful toJson ofJson? where
  spelled key := by
    apply Json.wellSpelled_record
    simp only [List.forall_mem_cons]
    exact ⟨Json.faithful_text.spelled _, Json.faithful_uint64.spelled _,
      AlertKind.faithful.spelled _, Json.faithful_text.list.spelled _, faithful_values.spelled _,
      by simp⟩
  reads key := by
    rw [ofJson?, toJson, Json.fields?_record_of_members .json .ignored (by rfl) (by decide)]
    simp only [List.map_cons, List.map_nil, Option.bind_eq_bind, Option.bind_some, Json.required,
      Json.faithful_text.reads, Json.faithful_uint64.reads, AlertKind.faithful.reads,
      Json.faithful_text.list.reads, faithful_values.reads]

end GroupKey

namespace AlertGroup

theorem faithful : Faithful toJson ofJson? where
  spelled group := by
    apply Json.wellSpelled_record
    simp only [List.forall_mem_cons]
    exact ⟨GroupKey.faithful.spelled _, Alert.faithful.list.spelled _, by simp⟩
  reads group := by
    rw [ofJson?, toJson, Json.fields?_record_of_members .json .ignored (by rfl) (by decide)]
    simp only [List.map_cons, List.map_nil, Option.bind_eq_bind, Option.bind_some, Json.required,
      GroupKey.faithful.reads, Alert.faithful.list.reads]

end AlertGroup

end Alerting
