import Alerting.Pipeline
import Alerting.Proofs.Store.Merge
import Alerting.Proofs.Total
import Alerting.Summary
import Mathlib.Data.List.Nodup

/-!
# What summaries tell

A summary counts records, and a store merges them. Where every entity has one record, the two
agree: a new store that takes the records over holds one entity for each of them, with the
severity that the summary counts it under and the time that the summary looks at.
-/

namespace Alerting

/-! ## Stores of records about different entities -/

namespace Store

variable (config : StoreConfig) (policy : TransitionPolicy) {entries : List EntityRecord}

/-- How many stored entities have a severity. -/
def countOf (store : Store) (severity : Severity) : Nat :=
  (store.ids.filter fun id => (store.entity id).current = severity).length

/-- The records of a store are about different entities. -/
theorem nodup_map_records (store : Store) : (store.records.map (·.entity)).Nodup := by
  have ids : store.records.map (·.entity) = store.ids := by
    rw [records, List.map_map]
    rfl
  rw [ids]
  exact store.entities.nodup_keys

/-- Among records about different entities there is one record about each. -/
theorem about_of_mem (distinct : (entries.map (·.entity)).Nodup) {entry : EntityRecord}
    (member : entry ∈ entries) : EntityRecord.about entry.entity entries = [entry] := by
  induction entries with
  | nil => cases member
  | cons first rest ih =>
    obtain ⟨absent, tail⟩ := List.nodup_cons.1 distinct
    obtain rfl | later := List.mem_cons.1 member
    · have none : EntityRecord.about entry.entity rest = [] := by
        rw [List.filter_eq_nil_iff]
        intro other inRest
        have different : other.entity ≠ entry.entity := fun same =>
          absent (List.mem_map.2 ⟨other, inRest, same⟩)
        simpa using different
      rw [EntityRecord.about, List.filter_cons_of_pos (by simp)]
      exact congrArg _ none
    · have different : first.entity ≠ entry.entity := fun same =>
        absent (List.mem_map.2 ⟨entry, later, same.symm⟩)
      rw [EntityRecord.about, List.filter_cons_of_neg (by simpa using different)]
      exact ih tail later

/-- A new store makes of each record what the record says about an entity that nothing is known
about. -/
theorem stored?_restore_empty (distinct : (entries.map (·.entity)).Nodup) {id : EntityId}
    {entity : Entity} :
    ((empty config policy).restore entries).stored? id = some entity ↔
      ∃ entry ∈ entries, entry.entity = id ∧ ({} : Entity).apply entry = entity := by
  rw [stored?_restore]
  constructor
  · intro stored
    split at stored
    case isTrue named =>
      obtain ⟨entry, member, about⟩ := List.any_eq_true.1 named
      obtain rfl : entry.entity = id := by simpa using about
      rw [about_of_mem distinct member, ← Entity.foldl_apply] at stored
      exact ⟨entry, member, rfl, Option.some.inj stored⟩
    case isFalse => cases stored
  · rintro ⟨entry, member, rfl, rfl⟩
    have named : entries.any (·.entity = entry.entity) = true :=
      List.any_eq_true.2 ⟨entry, member, by simp⟩
    rw [if_pos named, about_of_mem distinct member, ← Entity.foldl_apply]
    rfl

/-- A new store holds one entity for each of the records about different entities. -/
theorem perm_restore_empty (distinct : (entries.map (·.entity)).Nodup) :
    ((empty config policy).restore entries).entities.toList.Perm
      (entries.map fun entry => (entry.entity, ({} : Entity).apply entry)) := by
  have different : (entries.map fun entry => (entry.entity, ({} : Entity).apply entry)).Nodup := by
    apply List.Nodup.of_map Prod.fst
    rw [List.map_map]
    exact distinct
  have stored : ((empty config policy).restore entries).entities.toList.Nodup :=
    List.Nodup.of_map Prod.fst (SortedMap.nodup_keys _)
  rw [List.perm_ext_iff_of_nodup stored different]
  rintro ⟨id, entity⟩
  rw [SortedMap.mem_toList, List.mem_map]
  simp only [Prod.mk.injEq]
  exact stored?_restore_empty config policy distinct

theorem size_restore_empty (distinct : (entries.map (·.entity)).Nodup) :
    ((empty config policy).restore entries).size = entries.length := by
  rw [size, SortedMap.size, (perm_restore_empty config policy distinct).length_eq, List.length_map]

/-- What is stored under a key is what is known about it. -/
theorem countOf_eq (store : Store) (severity : Severity) :
    store.countOf severity =
      (store.entities.toList.filter fun entry => entry.2.current = severity).length := by
  have known : store.entities.toList.filter (fun entry =>
        (store.entity entry.1).current = severity) =
      store.entities.toList.filter fun entry => entry.2.current = severity := by
    apply List.filter_congr
    rintro ⟨id, entity⟩ member
    rw [Store.entity, SortedMap.mem_toList.1 member]
    rfl
  rw [countOf, ids, SortedMap.keys, List.filter_map, List.length_map, ← known]
  rfl

theorem countOf_restore_empty (distinct : (entries.map (·.entity)).Nodup) (severity : Severity) :
    ((empty config policy).restore entries).countOf severity =
      AlertSummary.countOf entries severity := by
  rw [countOf_eq, ((perm_restore_empty config policy distinct).filter _).length_eq,
    List.filter_map, List.length_map]
  rfl

/-- The times at which a new store has seen its entities are those in the records. -/
theorem lastSeen_restore_empty (distinct : (entries.map (·.entity)).Nodup) (time : Instant) :
    (∃ id, (((empty config policy).restore entries).entity id).lastSeen = some time) ↔
      some time ∈ entries.map (·.lastSeen) := by
  have seen (entry : EntityRecord) : (({} : Entity).apply entry).lastSeen = entry.lastSeen := by
    rw [Entity.apply]
    cases entry.lastSeen <;> rfl
  rw [List.mem_map]
  constructor
  · rintro ⟨id, last⟩
    rw [entity_eq_stored?] at last
    cases held : ((empty config policy).restore entries).stored? id with
    | none => simp [held] at last
    | some entity =>
      obtain ⟨entry, member, -, rfl⟩ := (stored?_restore_empty config policy distinct).1 held
      rw [held, Option.getD_some, seen] at last
      exact ⟨entry, member, last⟩
  · rintro ⟨entry, member, last⟩
    have held := (stored?_restore_empty config policy distinct).2 ⟨entry, member, rfl, rfl⟩
    refine ⟨entry.entity, ?_⟩
    rw [entity_eq_stored?, held, Option.getD_some, seen, last]

end Store

namespace AlertSummary

/-! ## The newest time -/

/-- The latest of some times, or none if there is no such time. -/
def IsLatest (times : Instant → Prop) : Option Instant → Prop
  | none => ∀ time, ¬ times time
  | some latest => times latest ∧ ∀ time, times time → time ≤ latest

theorem IsLatest.congr {times others : Instant → Prop} {latest : Option Instant}
    (isLatest : IsLatest times latest) (same : ∀ time, others time ↔ times time) :
    IsLatest others latest := by
  have equal : others = times := funext fun time => propext (same time)
  rwa [equal]

/-- The later of two times is the latest of all that these are the latest of. -/
theorem IsLatest.later {times others : Instant → Prop} {first second : Option Instant}
    (isFirst : IsLatest times first) (isSecond : IsLatest others second) :
    IsLatest (fun time => times time ∨ others time) (later first second) := by
  match first, second with
  | none, none => exact fun time => not_or_intro (isFirst time) (isSecond time)
  | none, some second =>
    exact ⟨.inr isSecond.1, fun time known => known.elim
      (fun inFirst => absurd inFirst (isFirst time)) (isSecond.2 time)⟩
  | some first, none =>
    exact ⟨.inl isFirst.1, fun time known => known.elim
      (isFirst.2 time) fun inSecond => absurd inSecond (isSecond time)⟩
  | some first, some second =>
    rw [AlertSummary.later]
    split
    case isTrue less =>
      refine ⟨.inr isSecond.1, fun time known => known.elim (fun inFirst => ?_) (isSecond.2 time)⟩
      exact Int64.le_trans (isFirst.2 time inFirst) (Int64.le_of_lt less)
    case isFalse notLess =>
      refine ⟨.inl isFirst.1, fun time known => known.elim (isFirst.2 time) fun inSecond => ?_⟩
      exact Int64.le_trans (isSecond.2 time inSecond) (Int64.not_lt.1 notLess)

theorem isLatest_option (time? : Option Instant) : IsLatest (fun time => time? = some time) time? := by
  cases time? with
  | none => exact fun _ => nofun
  | some latest => exact ⟨rfl, fun _ same => Option.some.inj same ▸ Int64.le_refl _⟩

/-- Going through times, some of them absent, leads to the latest one. -/
theorem IsLatest.foldl {times : Instant → Prop} {first : Option Instant}
    (isFirst : IsLatest times first) (rest : List (Option Instant)) :
    IsLatest (fun time => times time ∨ some time ∈ rest) (rest.foldl AlertSummary.later first) := by
  induction rest generalizing times first with
  | nil => exact isFirst.congr fun time => by simp
  | cons next rest ih =>
    exact (ih (isFirst.later (isLatest_option next))).congr fun time => by
      rw [List.mem_cons, or_assoc, eq_comm (a := next)]

theorem isLatest_newestSeen (alertId : AlertId) (entries : List EntityRecord) :
    IsLatest (fun time => some time ∈ entries.map (·.lastSeen))
      (ofRecords alertId entries).newestSeen := by
  have nothing : IsLatest (fun _ => False) none := fun _ => id
  exact (nothing.foldl (entries.map (·.lastSeen))).congr fun time => by rw [false_or]

/-! ## The counts -/

/-- Severities that do not occur are left out, the others stand with their counts. -/
theorem mem_severities {alertId : AlertId} {entries : List EntityRecord} {severity : Severity}
    {count : Nat} :
    (severity, count) ∈ (ofRecords alertId entries).severities ↔
      count ≠ 0 ∧ count = countOf entries severity := by
  simp only [ofRecords, List.mem_filter, List.mem_map, Prod.mk.injEq, decide_eq_true_eq]
  constructor
  · rintro ⟨⟨_, -, rfl, rfl⟩, occurs⟩
    exact ⟨occurs, rfl⟩
  · rintro ⟨occurs, rfl⟩
    exact ⟨⟨severity, severity.mem_all, rfl, rfl⟩, occurs⟩

/-- The severities stand in their order, each at most once. -/
theorem pairwise_severities (alertId : AlertId) (entries : List EntityRecord) :
    ((ofRecords alertId entries).severities.map Prod.fst).Pairwise fun first second =>
      first.rank < second.rank := by
  have ordered : Severity.all.Pairwise fun first second => first.rank < second.rank := by decide
  refine List.Pairwise.sublist ?_ ordered
  have listed : (Severity.all.map fun severity => (severity, countOf entries severity)).map Prod.fst =
      Severity.all := by
    rw [List.map_map]
    exact List.map_id _
  rw [← listed]
  exact List.filter_sublist.map Prod.fst

/-- Counts of zero add nothing. -/
theorem sumOf_filter_ne_zero {α : Type} (counts : List (α × Nat)) :
    sumOf Prod.snd (counts.filter fun count => count.2 ≠ 0) = sumOf Prod.snd counts := by
  induction counts with
  | nil => rfl
  | cons count rest ih =>
    by_cases zero : count.2 = 0
    · rw [List.filter_cons_of_neg (by simpa using zero), ih, sumOf_cons, zero, Nat.zero_add]
    · rw [List.filter_cons_of_pos (by simpa using zero), sumOf_cons, sumOf_cons, ih]

/-- Each record is counted under one severity. -/
theorem sumOf_severities (alertId : AlertId) (entries : List EntityRecord) :
    sumOf Prod.snd (ofRecords alertId entries).severities = entries.length := by
  rw [ofRecords, sumOf_filter_ne_zero, sumOf_map]
  induction entries with
  | nil => rfl
  | cons entry rest ih =>
    have counted (severity : Severity) : countOf (entry :: rest) severity =
        (if entry.current.getD .good = severity then 1 else 0) + countOf rest severity := by
      by_cases same : entry.current.getD .good = severity
      · simp [countOf, same, Nat.add_comm]
      · simp [countOf, same]
    simp only [Severity.all, sumOf_cons, sumOf_nil, counted] at ih ⊢
    rw [List.length_cons, ← ih]
    cases entry.current.getD .good <;> simp <;> omega

end AlertSummary

namespace Checkpoint

/-- An alert has one summary, that of its records. -/
theorem filter_summaries {checkpoint : Checkpoint} {alert : AlertId} {entries : List EntityRecord}
    (held : checkpoint.alerts.get? alert = some entries) :
    checkpoint.summaries.filter (fun summary => summary.alertId = alert) =
      [.ofRecords alert entries] := by
  rw [summaries, List.filter_map]
  have listed := checkpoint.alerts.filter_key_toList alert
  rw [held] at listed
  exact congrArg (List.map _) listed

/--
Checkpoints that are taken of a pipeline have one record for each entity. Wherever this is so for
an alert, the alert has one summary, and it tells what a new store holds that takes the records
over: how many entities there are; under each severity that occurs, in their order, how many have
it, which makes up all of them; and when the last of them was seen, if any was.
-/
theorem summaries_tell_restored_stores :
    (∀ (pipeline : Pipeline) (takenAt : Instant) (alert : AlertId) (entries : List EntityRecord),
      (pipeline.checkpoint takenAt).alerts.get? alert = some entries →
        (entries.map (·.entity)).Nodup) ∧
    ∀ (checkpoint : Checkpoint) (alert : AlertId) (entries : List EntityRecord),
      checkpoint.alerts.get? alert = some entries → (entries.map (·.entity)).Nodup →
        ∃ summary, checkpoint.summaries.filter (fun summary => summary.alertId = alert) = [summary] ∧
          ∀ config policy,
            let store := (Store.empty config policy).restore entries
            summary.entities = store.size ∧
            (∀ severity count, (severity, count) ∈ summary.severities ↔
              count ≠ 0 ∧ count = store.countOf severity) ∧
            ((summary.severities.map Prod.fst).Pairwise fun first second =>
              first.rank < second.rank) ∧
            sumOf Prod.snd summary.severities = summary.entities ∧
            AlertSummary.IsLatest (fun time => ∃ id, (store.entity id).lastSeen = some time)
              summary.newestSeen := by
  constructor
  · intro pipeline takenAt alert entries held
    rw [Pipeline.checkpoint, SortedMap.get?_mapValues, Option.map_eq_some_iff] at held
    obtain ⟨evaluator, -, rfl⟩ := held
    exact evaluator.store.nodup_map_records
  · intro checkpoint alert entries held distinct
    refine ⟨_, filter_summaries held, fun config policy => ?_⟩
    intro store
    refine ⟨(Store.size_restore_empty config policy distinct).symm, fun severity count => ?_,
      AlertSummary.pairwise_severities alert entries, AlertSummary.sumOf_severities alert entries,
      ?_⟩
    · rw [Store.countOf_restore_empty config policy distinct]
      exact AlertSummary.mem_severities
    · exact (AlertSummary.isLatest_newestSeen alert entries).congr
        (Store.lastSeen_restore_empty config policy distinct)

/-- Two bad entities and one that its record says nothing about, which counts as good. -/
theorem summaries_tell_restored_stores_sparse :
    let entries : List EntityRecord := [{ entity := 1, current := some .bad, lastSeen := some 50 },
      { entity := 2, current := some .bad, lastSeen := some 80 }, { entity := 3 }]
    let checkpoint : Checkpoint := ⟨1, 0, SortedMap.ofList [(7, entries), (9, [])]⟩
    let store := (Store.empty ⟨.never, false⟩ TransitionRules.unhealthyOnly.policy).restore entries
    checkpoint.alerts.get? 7 = some entries ∧ (entries.map (·.entity)).Nodup ∧
      ∃ summary, checkpoint.summaries.filter (fun summary => summary.alertId = 7) = [summary] ∧
        summary.entities = store.size ∧ store.size = 3 ∧
        (.bad, 2) ∈ summary.severities ∧ (.good, 1) ∈ summary.severities ∧
        (∀ count, (.missing, count) ∉ summary.severities) ∧
        AlertSummary.IsLatest (fun time => ∃ id, (store.entity id).lastSeen = some time)
          summary.newestSeen := by
  intro entries checkpoint store
  have held : checkpoint.alerts.get? 7 = some entries := by decide +kernel
  have distinct : (entries.map (·.entity)).Nodup := by decide
  obtain ⟨-, tells⟩ := summaries_tell_restored_stores
  obtain ⟨summary, only, agrees⟩ := tells checkpoint 7 entries held distinct
  obtain ⟨entities, counts, -, -, newest⟩ :=
    agrees ⟨.never, false⟩ TransitionRules.unhealthyOnly.policy
  refine ⟨held, distinct, summary, only, entities, by decide, ?_, ?_, ?_, newest⟩
  · exact (counts .bad 2).2 ⟨by decide, by decide⟩
  · exact (counts .good 1).2 ⟨by decide, by decide⟩
  · intro count listed
    obtain ⟨occurs, number⟩ := (counts .missing count).1 listed
    exact occurs (number.trans (by decide))

end Checkpoint

end Alerting
