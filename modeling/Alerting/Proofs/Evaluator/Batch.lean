import Alerting.Proofs.Evaluator.Newest
import Alerting.Proofs.Store.Detection

/-!
# Batches of observations

Of the observations about one entity only the first one in a batch matters: it decides
the entity, and in a batch sorted newest first the later ones find an entity that is
decided and that was seen at their time or after it. So a batch does to an entity what its
first observation alone would do, and it raises what the first observations raise.
-/

namespace Alerting

namespace Entity

/-- A sighting that is no news leaves an entity as it was. -/
theorem see_eq_self {entity : Entity} {preservesIdentity : Bool} {last seen : Instant}
    (lastSeen : entity.lastSeen = some last) (early : seen ≤ last)
    (known : preservesIdentity = true → entity.tags ≠ none) (tags : Tags) :
    entity.see preservesIdentity tags seen = entity := by
  cases entity with
  | mk current previous nagTimestamp lastSeen held =>
    subst lastSeen
    simp only [see, Int64.not_lt.2 early, if_false, mk.injEq, true_and]
    cases held with
    | some _ => rfl
    | none =>
      cases preservesIdentity with
      | true => exact absurd rfl (known rfl)
      | false => rfl

end Entity

namespace Store

section See

variable (store : Store) (id : EntityId) (tags : Tags) (seen : Instant)

theorem slot_see_self :
    (store.see id tags seen).slot id =
      ⟨(store.entity id).see store.config.preservesIdentity tags seen, store.isDecided id⟩ := by
  simp [see, slot_update, isDecided_eq_slot]

theorem entity_see_self :
    (store.see id tags seen).entity id =
      (store.entity id).see store.config.preservesIdentity tags seen :=
  congrArg Slot.entity (slot_see_self store id tags seen)

theorem isDecided_see_self : (store.see id tags seen).isDecided id = store.isDecided id := by
  rw [isDecided_eq_slot, slot_see_self]

theorem slot_see_of_ne {other : EntityId} (different : other ≠ id) :
    (store.see id tags seen).slot other = store.slot other := by
  simp [see, slot_update, different]

theorem entity_see_of_ne {other : EntityId} (different : other ≠ id) :
    (store.see id tags seen).entity other = store.entity other :=
  congrArg Slot.entity (slot_see_of_ne store id tags seen different)

/-- A sighting does not bear on the answer of the raise call that follows it. -/
theorem fst_raise_see (new : Severity) (now : Instant) :
    ((store.see id tags seen).raise id new now).1 = (store.raise id new now).1 := by
  have marks := isDecided_see_self store id tags seen
  cases decided : store.isDecided id with
  | true =>
    rw [raise_of_isDecided (marks.trans decided), raise_of_isDecided decided, entity_see_self]
    rfl
  | false =>
    rw [fst_raise_of_not_isDecided (marks.trans decided), fst_raise_of_not_isDecided decided,
      entity_see_self]
    simp only [Entity.evaluate_eq]
    rfl

end See

/-- The run has decided about the entity, and a sighting up to the given time is no news. -/
structure Settled (store : Store) (id : EntityId) (time : Instant) : Prop where
  decided : store.isDecided id = true
  seen : ∃ last, (store.entity id).lastSeen = some last ∧ time ≤ last
  known : store.config.preservesIdentity = true → (store.entity id).tags ≠ none

end Store

namespace Evaluator

variable (evaluator : Evaluator) (now : Instant)

/-- The alert that an observation calls for if its severity is raised on a store. -/
def alert? (store : Store) (observation : Observation) : Option Alert :=
  let id := evaluator.identify observation
  let change := (store.raise id observation.severity now).1
  if change.shouldRaise then some (evaluator.alertOf id observation.tags change now) else none

/-- The store after one observation. -/
def settle (store : Store) (observation : Observation) : Store :=
  let id := evaluator.identify observation
  ((store.see id observation.tags observation.timestamp).raise id observation.severity now).2

theorem applyOne_eq (observation : Observation) (store : Store) :
    evaluator.applyOne now observation store =
      (evaluator.alert? now store observation, evaluator.settle now store observation) := by
  simp only [applyOne, alert?, settle, Store.fst_raise_see]

theorem applyAll_cons (observation : Observation) (rest : List Observation) (store : Store) :
    evaluator.applyAll now (observation :: rest) store =
      let (alerts, last) := evaluator.applyAll now rest (evaluator.settle now store observation)
      ((evaluator.alert? now store observation).toList ++ alerts, last) := by
  simp only [applyAll, applyOne_eq]

/-! ## One observation -/

section Settle

variable (store : Store) (observation : Observation)

@[simp] theorem policy_settle : (evaluator.settle now store observation).policy = store.policy := by
  simp [settle, Store.see]

@[simp] theorem config_settle : (evaluator.settle now store observation).config = store.config := by
  simp [settle, Store.see]

theorem slot_settle_of_ne {id : EntityId} (different : id ≠ evaluator.identify observation) :
    (evaluator.settle now store observation).slot id = store.slot id := by
  rw [settle, Store.slot_raise_of_ne different, Store.slot_see_of_ne store _ _ _ different]

/-- The first observation about an entity in a run decides it. -/
theorem slot_settle_self
    (undecided : store.isDecided (evaluator.identify observation) = false) :
    (evaluator.settle now store observation).slot (evaluator.identify observation) =
      ⟨(((store.entity (evaluator.identify observation)).see store.config.preservesIdentity
          observation.tags observation.timestamp).evaluate store.policy
          store.config.nagInterval observation.severity now).2, true⟩ := by
  rw [settle, Store.slot_raise,
    if_pos ⟨rfl, (Store.isDecided_see_self _ _ _ _).trans undecided⟩, Store.entity_see_self]
  rfl

/-- What an observation does to the slot of its entity depends on that slot alone. -/
theorem slot_settle_congr {first second : Store} (policy : first.policy = second.policy)
    (config : first.config = second.config)
    (slot : first.slot (evaluator.identify observation) =
      second.slot (evaluator.identify observation)) :
    (evaluator.settle now first observation).slot (evaluator.identify observation) =
      (evaluator.settle now second observation).slot (evaluator.identify observation) := by
  refine (Store.slot_raise_congr ?_ ?_ ?_ observation.severity now).2
  · exact policy
  · exact config
  · simp only [Store.slot_see_self, Store.entity_eq_slot, Store.isDecided_eq_slot, slot, config]

theorem alert?_congr {first second : Store} (policy : first.policy = second.policy)
    (config : first.config = second.config)
    (slot : first.slot (evaluator.identify observation) =
      second.slot (evaluator.identify observation)) :
    evaluator.alert? now first observation = evaluator.alert? now second observation := by
  simp only [alert?, (Store.slot_raise_congr policy config slot observation.severity now).1]

/-- A decided entity raises no alert. -/
theorem alert?_of_isDecided {store : Store}
    (decided : store.isDecided (evaluator.identify observation) = true) :
    evaluator.alert? now store observation = none := by
  simp [alert?, Store.raise_of_isDecided decided, StateChange.silent]

theorem isDecided_settle :
    (evaluator.settle now store observation).isDecided (evaluator.identify observation) = true :=
  Store.isDecided_raise_self _ _ _ _

theorem settled_settle (undecided : store.isDecided (evaluator.identify observation) = false) :
    (evaluator.settle now store observation).Settled (evaluator.identify observation)
      observation.timestamp := by
  have slot := evaluator.slot_settle_self now store observation undecided
  constructor
  · exact evaluator.isDecided_settle now store observation
  · simp only [Store.entity_eq_slot, slot, Entity.lastSeen_evaluate, Entity.lastSeen_see]
    refine ⟨_, rfl, ?_⟩
    cases (store.slot (evaluator.identify observation)).entity.lastSeen with
    | none => exact Int64.le_refl _
    | some last => exact Entity.le_max last observation.timestamp
  · intro preserves
    rw [config_settle] at preserves
    simp only [Store.entity_eq_slot, slot, Entity.tags_evaluate, Entity.see, preserves, if_true]
    cases (store.slot (evaluator.identify observation)).entity.tags <;> simp

/-- Observations up to the time of a settled entity change nothing about it. -/
theorem slot_settle_of_settled {store : Store} {id : EntityId} {time : Instant}
    (settled : store.Settled id time)
    (early : evaluator.identify observation = id → observation.timestamp ≤ time) :
    (evaluator.settle now store observation).slot id = store.slot id := by
  by_cases same : id = evaluator.identify observation
  · subst same
    rcases settled.seen with ⟨last, lastSeen, le⟩
    have noNews := Entity.see_eq_self lastSeen (Int64.le_trans (early rfl) le) settled.known
      observation.tags
    have marks := (Store.isDecided_see_self store (evaluator.identify observation)
      observation.tags observation.timestamp).trans settled.decided
    rw [settle, Store.raise_of_isDecided marks, Store.slot_see_self, noNews]
    rfl
  · exact evaluator.slot_settle_of_ne now store observation same

end Settle

/-! ## First observations -/

/-- The observations of a batch that are the first about their entity. -/
def leading (evaluator : Evaluator) : List Observation → List Observation
  | [] => []
  | observation :: rest =>
    observation :: (leading evaluator rest).filter fun other =>
      evaluator.identify other ≠ evaluator.identify observation

section Leading

variable {evaluator : Evaluator}

theorem leading_sublist (batch : List Observation) :
    (evaluator.leading batch).Sublist batch := by
  induction batch with
  | nil => exact List.Sublist.slnil
  | cons observation rest ih => exact (List.filter_sublist.trans ih).cons_cons observation

theorem nodup_map_leading (batch : List Observation) :
    ((evaluator.leading batch).map evaluator.identify).Nodup := by
  induction batch with
  | nil => exact List.nodup_nil
  | cons observation rest ih =>
    rw [leading, List.map_cons, List.nodup_cons]
    constructor
    · intro member
      rcases List.mem_map.1 member with ⟨other, kept, same⟩
      simp [same] at kept
    · exact ih.sublist (List.filter_sublist.map _)

theorem mem_leading {batch : List Observation} {observation : Observation} :
    observation ∈ evaluator.leading batch ↔
      batch.find? (evaluator.identify · = evaluator.identify observation) = some observation := by
  induction batch with
  | nil => simp [leading]
  | cons first rest ih =>
    rw [leading, List.mem_cons, List.mem_filter, ih, List.find?_cons]
    by_cases same : evaluator.identify first = evaluator.identify observation
    · simp [same, eq_comm]
    · have different : observation ≠ first := by
        rintro rfl
        exact same rfl
      simp [same, Ne.symm same, different]

end Leading

/-! ## A whole batch -/

section All

/-- A batch raises what its first observations raise on the store as it was found. -/
theorem fst_applyAll (batch : List Observation) (store : Store) :
    (evaluator.applyAll now batch store).1 =
      (evaluator.leading batch).filterMap (evaluator.alert? now store) := by
  induction batch generalizing store with
  | nil => rfl
  | cons observation rest ih =>
    -- after `observation`, the others about its entity raise nothing
    have others : (evaluator.leading rest).filterMap
          (evaluator.alert? now (evaluator.settle now store observation)) =
        ((evaluator.leading rest).filter fun other =>
          evaluator.identify other ≠ evaluator.identify observation).filterMap
          (evaluator.alert? now store) := by
      rw [List.filterMap_filter]
      apply List.filterMap_congr
      intro other _
      by_cases same : evaluator.identify other = evaluator.identify observation
      · have decided := evaluator.isDecided_settle now store observation
        rw [← same] at decided
        simp [same, evaluator.alert?_of_isDecided now other decided]
      · have slot := evaluator.slot_settle_of_ne now store observation same
        simp [same, evaluator.alert?_congr now other (by simp) (by simp) slot]
    rw [applyAll_cons, leading, List.filterMap_cons]
    simp only [ih, others]
    cases evaluator.alert? now store observation <;> rfl

/-- A batch up to the time of a settled entity changes nothing about it. -/
theorem slot_applyAll_of_settled {batch : List Observation} {store : Store} {id : EntityId}
    {time : Instant} (settled : store.Settled id time)
    (early : ∀ other ∈ batch, evaluator.identify other = id → other.timestamp ≤ time) :
    (evaluator.applyAll now batch store).2.slot id = store.slot id := by
  induction batch generalizing store with
  | nil => rfl
  | cons observation rest ih =>
    have unchanged := evaluator.slot_settle_of_settled now observation settled
      (early observation List.mem_cons_self)
    have still : (evaluator.settle now store observation).Settled id time := by
      rcases settled with ⟨decided, seen, known⟩
      simp only [Store.isDecided_eq_slot, Store.entity_eq_slot] at decided seen known
      constructor
      · rw [Store.isDecided_eq_slot, unchanged]
        exact decided
      · rw [Store.entity_eq_slot, unchanged]
        exact seen
      · rw [Store.entity_eq_slot, unchanged, config_settle]
        exact known
    rw [applyAll_cons]
    exact (ih still fun other member => early other (List.mem_cons_of_mem _ member)).trans
      unchanged

/-- In a batch sorted newest first, the first observation about an undecided entity does to
it what the whole batch does. -/
theorem slot_applyAll_of_find?_eq_some {batch : List Observation} {store : Store} {id : EntityId}
    {newest : Observation}
    (sorted : batch.Pairwise fun first second => second.timestamp ≤ first.timestamp)
    (found : batch.find? (evaluator.identify · = id) = some newest)
    (undecided : store.isDecided id = false) :
    (evaluator.applyAll now batch store).2.slot id =
      (evaluator.settle now store newest).slot id := by
  induction batch generalizing store with
  | nil => simp at found
  | cons observation rest ih =>
    rcases List.pairwise_cons.1 sorted with ⟨older, sortedRest⟩
    rw [applyAll_cons]
    by_cases same : evaluator.identify observation = id
    · obtain rfl : observation = newest := by simpa [same] using found
      subst same
      exact evaluator.slot_applyAll_of_settled now
        (evaluator.settled_settle now store observation undecided)
        fun other member _ => older other member
    · have foundRest : rest.find? (evaluator.identify · = id) = some newest := by
        simpa [same] using found
      have named : evaluator.identify newest = id := by
        simpa using List.find?_some foundRest
      have unchanged := evaluator.slot_settle_of_ne now store observation (Ne.symm same)
      have stillUndecided :
          (evaluator.settle now store observation).isDecided id = false := by
        rw [Store.isDecided_eq_slot, unchanged]
        exact undecided
      subst named
      exact (ih sortedRest foundRest stillUndecided).trans
        (evaluator.slot_settle_congr now newest (by simp) (by simp) unchanged)

end All

end Evaluator

end Alerting
