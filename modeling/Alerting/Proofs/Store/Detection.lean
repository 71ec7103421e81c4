import Alerting.Proofs.Store.Entity
import Alerting.Proofs.Store.Slot
import Alerting.Staleness
import Mathlib.Data.List.Basic

/-!
# Detection as raise calls

A detection makes one raise call for each stale entity. Calls for different entities do
not disturb each other, so what a detection does to an entity, and what it reports about
it, is what a single call would do on the store as it was found.
-/

namespace Alerting

namespace Store

/-- What a raise call does to the slot of its entity depends on that slot alone. -/
theorem slot_raise_congr {first second : Store} {id : EntityId}
    (policy : first.policy = second.policy) (config : first.config = second.config)
    (slot : first.slot id = second.slot id) (new : Severity) (now : Instant) :
    (first.raise id new now).1 = (second.raise id new now).1 ∧
      (first.raise id new now).2.slot id = (second.raise id new now).2.slot id := by
  have entity : first.entity id = second.entity id := congrArg Slot.entity slot
  have marks : first.isDecided id = second.isDecided id := congrArg Slot.isDecided slot
  constructor
  · cases decided : second.isDecided id with
    | true => rw [raise_of_isDecided (marks.trans decided), raise_of_isDecided decided, entity]
    | false =>
      rw [fst_raise_of_not_isDecided (marks.trans decided), fst_raise_of_not_isDecided decided,
        entity, policy, config]
  · rw [slot_raise, slot_raise, entity, marks, policy, config, slot]

/-- A raise call reads no sighting and changes none. -/
@[simp] theorem lastSeen_raise (store : Store) (id other : EntityId) (new : Severity)
    (now : Instant) :
    ((store.raise id new now).2.entity other).lastSeen = (store.entity other).lastSeen := by
  rw [entity_eq_slot, slot_raise]
  split
  · rename_i first
    rw [first.1]
    exact Entity.lastSeen_evaluate _ _ _ _ _
  · rfl

@[simp] theorem tags_raise (store : Store) (id other : EntityId) (new : Severity)
    (now : Instant) :
    ((store.raise id new now).2.entity other).tags = (store.entity other).tags := by
  rw [entity_eq_slot, slot_raise]
  split
  · rename_i first
    rw [first.1]
    exact Entity.tags_evaluate _ _ _ _ _
  · rfl

/-- Only a notification can be a repeat. -/
theorem shouldRaise_of_isNag {store : Store} {id : EntityId} {new : Severity} {now : Instant}
    (nag : (store.raise id new now).1.isNag = true) :
    (store.raise id new now).1.shouldRaise = true := by
  cases decided : store.isDecided id with
  | true => simp [raise_of_isDecided decided, StateChange.silent] at nag
  | false =>
    rw [fst_raise_of_not_isDecided decided, Entity.evaluate_eq] at nag ⊢
    simp only [Bool.and_eq_true] at nag
    exact nag.2

end Store

namespace StalenessLimit

/-- An entity is stale if it was seen at some time, and last before the deadline. -/
def isStale (limit : StalenessLimit) (now : Instant) (entity : Entity) : Bool :=
  entity.lastSeen.any fun last => last < limit.deadline now

/-- What a detection reports about a stale entity, if it notifies. -/
def report? (store : Store) (now : Instant) (sighting : EntityId × Instant) :
    Option MissingEntity :=
  let change := (store.raise sighting.1 .missing now).1
  if change.shouldRaise then
    some ⟨sighting.1, (store.entity sighting.1).tags, sighting.2, change⟩
  else none

/-! ## The stale entities -/

section Stale

variable {limit : StalenessLimit} {store : Store} {now : Instant}

/-- The stale entities are the stored ones whose last sighting is too long ago. -/
theorem stale_eq :
    limit.stale store now = store.entities.toList.filterMap fun entry =>
      (entry.2.lastSeen.filter (· < limit.deadline now)).map fun last => (entry.1, last) := by
  apply List.filterMap_congr
  intro entry _
  cases entry.2.lastSeen with
  | none => rfl
  | some last => by_cases early : last < limit.deadline now <;> simp [Option.filter, early]

theorem mem_stale {id : EntityId} {last : Instant} :
    (id, last) ∈ limit.stale store now ↔
      (store.entity id).lastSeen = some last ∧ last < limit.deadline now := by
  simp only [stale_eq, List.mem_filterMap, Prod.exists, SortedMap.mem_toList,
    Option.map_eq_some_iff, Option.filter_eq_some_iff, decide_eq_true_eq, Prod.mk.injEq]
  constructor
  · rintro ⟨_, entity, held, _, ⟨seen, early⟩, rfl, rfl⟩
    exact ⟨by simpa [Store.entity, held] using seen, early⟩
  · rintro ⟨seen, early⟩
    cases held : store.entities.get? id with
    | none => simp [Store.entity, held] at seen
    | some entity =>
      have seen : entity.lastSeen = some last := by simpa [Store.entity, held] using seen
      exact ⟨id, entity, held, last, ⟨seen, early⟩, rfl, rfl⟩

theorem mem_map_stale {id : EntityId} :
    id ∈ (limit.stale store now).map Prod.fst ↔
      limit.isStale now (store.entity id) = true := by
  simp only [List.mem_map, Prod.exists, exists_and_right, exists_eq_right, mem_stale, isStale,
    Option.any_eq_true, decide_eq_true_eq]

/-- Stale entities are listed in strictly ascending order. -/
theorem pairwise_stale :
    (limit.stale store now).Pairwise fun earlier later => compare earlier.1 later.1 = .lt := by
  rw [stale_eq, List.pairwise_filterMap]
  apply store.entities.ascending.imp
  intro earlier later less first firstEq second secondEq
  rcases Option.map_eq_some_iff.1 firstEq with ⟨_, -, rfl⟩
  rcases Option.map_eq_some_iff.1 secondEq with ⟨_, -, rfl⟩
  exact less

theorem nodup_map_stale : ((limit.stale store now).map Prod.fst).Nodup :=
  List.pairwise_map.2 <| pairwise_stale.imp fun {earlier later} less equal => by
    simp [equal] at less

end Stale

/-! ## A row of raise calls -/

section Row

variable (now : Instant)

@[simp] theorem policy_raiseMissing (sightings : List (EntityId × Instant)) (store : Store) :
    (raiseMissing now sightings store).2.policy = store.policy := by
  induction sightings generalizing store with
  | nil => rfl
  | cons sighting rest ih =>
    simp only [raiseMissing]
    split <;> simp [ih]

@[simp] theorem config_raiseMissing (sightings : List (EntityId × Instant)) (store : Store) :
    (raiseMissing now sightings store).2.config = store.config := by
  induction sightings generalizing store with
  | nil => rfl
  | cons sighting rest ih =>
    simp only [raiseMissing]
    split <;> simp [ih]

theorem raiseMissing_cons (sighting : EntityId × Instant) (rest : List (EntityId × Instant))
    (store : Store) :
    raiseMissing now (sighting :: rest) store =
      let after := (store.raise sighting.1 .missing now).2
      let (others, last) := raiseMissing now rest after
      ((if (store.raise sighting.1 .missing now).1.shouldRaise then
          [⟨sighting.1, (after.entity sighting.1).tags, sighting.2,
            (store.raise sighting.1 .missing now).1⟩]
        else []) ++ others, last) := by
  simp only [raiseMissing]
  split <;> rfl

theorem slot_raiseMissing (sightings : List (EntityId × Instant)) (store : Store)
    (id : EntityId) :
    (raiseMissing now sightings store).2.slot id =
      if id ∈ sightings.map Prod.fst then (store.raise id .missing now).2.slot id
      else store.slot id := by
  induction sightings generalizing store with
  | nil => rfl
  | cons sighting rest ih =>
    rcases sighting with ⟨first, last⟩
    simp only [raiseMissing_cons, ih, List.map_cons, List.mem_cons]
    by_cases same : id = first
    · -- a second call about the entity would find it decided
      subst same
      simp [Store.raise_of_isDecided (Store.isDecided_raise_self store id .missing now)]
    · have before : (store.raise first .missing now).2.slot id = store.slot id :=
        Store.slot_raise_of_ne same .missing now
      rw [(Store.slot_raise_congr (by simp) (by simp) before .missing now).2, before]
      simp only [or_iff_right same]

/-- The reports of a row of raise calls about different entities. -/
theorem fst_raiseMissing {sightings : List (EntityId × Instant)} (store : Store)
    (distinct : (sightings.map Prod.fst).Nodup) :
    (raiseMissing now sightings store).1 = sightings.filterMap (report? store now) := by
  induction sightings generalizing store with
  | nil => rfl
  | cons sighting rest ih =>
    rcases sighting with ⟨first, last⟩
    simp only [List.map_cons, List.nodup_cons] at distinct
    have others : ∀ other ∈ rest,
        report? (store.raise first .missing now).2 now other = report? store now other := by
      intro other member
      have different : other.1 ≠ first := by
        rintro rfl
        exact distinct.1 (List.mem_map_of_mem member)
      have same : (store.raise first .missing now).2.slot other.1 = store.slot other.1 :=
        Store.slot_raise_of_ne different .missing now
      have change := (Store.slot_raise_congr (by simp) (by simp) same .missing now).1
      simp only [report?, change, Store.entity_eq_slot, same]
    rw [raiseMissing_cons, List.filterMap_cons]
    simp only [ih _ distinct.2, List.filterMap_congr others, Store.tags_raise, report?]
    split <;> rfl

end Row

/-! ## A detection -/

section Detect

variable (limit : StalenessLimit) (store : Store) (now : Instant)

@[simp] theorem policy_detect : (limit.detect store now).2.policy = store.policy :=
  policy_raiseMissing now _ store

@[simp] theorem config_detect : (limit.detect store now).2.config = store.config :=
  config_raiseMissing now _ store

/-- A detection treats a stale entity as a raise call would, and leaves every other alone. -/
theorem slot_detect (id : EntityId) :
    (limit.detect store now).2.slot id =
      if limit.isStale now (store.entity id) then (store.raise id .missing now).2.slot id
      else store.slot id := by
  rw [detect, slot_raiseMissing]
  simp only [mem_map_stale]

@[simp] theorem lastSeen_detect (id : EntityId) :
    ((limit.detect store now).2.entity id).lastSeen = (store.entity id).lastSeen := by
  rw [Store.entity_eq_slot, slot_detect]
  split
  · exact store.lastSeen_raise id id .missing now
  · rfl

@[simp] theorem tags_detect (id : EntityId) :
    ((limit.detect store now).2.entity id).tags = (store.entity id).tags := by
  rw [Store.entity_eq_slot, slot_detect]
  split
  · exact store.tags_raise id id .missing now
  · rfl

/-- A detection reports the stale entities whose raise call notifies. -/
theorem fst_detect :
    (limit.detect store now).1 = (limit.stale store now).filterMap (report? store now) :=
  fst_raiseMissing now store nodup_map_stale

/-- Reports come in strictly ascending order of their entities. -/
theorem pairwise_detect :
    (limit.detect store now).1.Pairwise fun earlier later =>
      compare earlier.entity later.entity = .lt := by
  rw [fst_detect, List.pairwise_filterMap]
  apply pairwise_stale.imp
  intro earlier later less first firstEq second secondEq
  have entity {sighting : EntityId × Instant} {reported : MissingEntity}
      (report : report? store now sighting = some reported) :
      reported.entity = sighting.1 := by
    simp only [report?, Option.ite_none_right_eq_some, Option.some.injEq] at report
    rw [← report.2]
  rw [entity firstEq, entity secondEq]
  exact less

theorem mem_detect {reported : MissingEntity} :
    reported ∈ (limit.detect store now).1 ↔
      limit.isStale now (store.entity reported.entity) = true ∧
        (store.entity reported.entity).lastSeen = some reported.lastSeen ∧
        reported.tags = (store.entity reported.entity).tags ∧
        reported.change = (store.raise reported.entity .missing now).1 ∧
        reported.change.shouldRaise = true := by
  rw [fst_detect, List.mem_filterMap]
  constructor
  · rintro ⟨⟨id, last⟩, member, report⟩
    rcases mem_stale.1 member with ⟨seen, early⟩
    simp only [report?, Option.ite_none_right_eq_some, Option.some.injEq] at report
    rcases report with ⟨raises, rfl⟩
    exact ⟨by simp [isStale, seen, early], seen, rfl, rfl, raises⟩
  · rintro ⟨stale, seen, tags, change, raises⟩
    have early : reported.lastSeen < limit.deadline now := by
      simpa [isStale, seen] using stale
    refine ⟨(reported.entity, reported.lastSeen), mem_stale.2 ⟨seen, early⟩, ?_⟩
    cases reported
    simp_all [report?]

/-- No entity is reported twice. -/
theorem nodup_map_detect : ((limit.detect store now).1.map MissingEntity.entity).Nodup := by
  have order := pairwise_detect limit store now
  exact List.pairwise_map.2 <| order.imp fun {earlier later} less equal => by
    simp [equal] at less

/-- What a detection reports about a stale entity is what it reports about its sighting. -/
theorem filter_detect {limit : StalenessLimit} {store : Store} {now : Instant} {id : EntityId}
    {last : Instant} (seen : (store.entity id).lastSeen = some last)
    (early : last < limit.deadline now) :
    ((limit.detect store now).1.filter fun reported => reported.entity = id) =
      (report? store now (id, last)).toList := by
  have found : SortedMap.find? id (limit.stale store now) = some last :=
    (SortedMap.find?_eq_some_iff pairwise_stale).2 (mem_stale.2 ⟨seen, early⟩)
  have picked := SortedMap.filter_key_eq_find? id (@pairwise_stale limit store now)
  rw [found] at picked
  have keyed (sighting : EntityId × Instant) :
      ((report? store now sighting).filter fun reported => reported.entity = id) =
        if decide (sighting.1 = id) then report? store now sighting else none := by
    simp only [report?]
    cases (store.raise sighting.1 .missing now).1.shouldRaise <;> simp [Option.filter]
  calc ((limit.detect store now).1.filter fun reported => reported.entity = id)
      = ((limit.stale store now).filter fun sighting => sighting.1 = id).filterMap
          (report? store now) := by
        simp only [fst_detect, List.filter_filterMap, List.filterMap_filter, keyed]
    _ = (report? store now (id, last)).toList := by
        rw [picked]
        cases report : report? store now (id, last) <;> simp [report]

/-- An entity that is not stale is not reported. -/
theorem filter_detect_of_not_isStale {limit : StalenessLimit} {store : Store} {now : Instant}
    {id : EntityId} (fresh : limit.isStale now (store.entity id) = false) :
    ((limit.detect store now).1.filter fun reported => reported.entity = id) = [] := by
  rw [List.filter_eq_nil_iff]
  intro reported member about
  rw [← of_decide_eq_true about, ((mem_detect limit store now).1 member).1] at fresh
  cases fresh

/-- What a detection reports about an entity depends on its slot. -/
theorem filter_detect_congr (limit : StalenessLimit) {first second : Store} {now : Instant}
    {id : EntityId} (config : first.config = second.config)
    (policy : first.policy = second.policy) (slot : first.slot id = second.slot id) :
    ((limit.detect first now).1.filter fun reported => reported.entity = id) =
      (limit.detect second now).1.filter fun reported => reported.entity = id := by
  have entity : first.entity id = second.entity id := congrArg Slot.entity slot
  cases stale : limit.isStale now (second.entity id) with
  | false =>
    rw [filter_detect_of_not_isStale stale,
      filter_detect_of_not_isStale (entity ▸ stale)]
  | true =>
    simp only [isStale, Option.any_eq_true, decide_eq_true_eq] at stale
    rcases stale with ⟨last, seen, early⟩
    rw [filter_detect seen early, filter_detect (entity ▸ seen) early]
    simp only [report?, entity, (Store.slot_raise_congr policy config slot .missing now).1]

end Detect

end StalenessLimit

end Alerting
