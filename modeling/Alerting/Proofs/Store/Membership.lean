import Alerting.Proofs.Store.Detection

/-!
# Stored entities

Which entities a store holds. A store creates an entity when it first hears of it, through
a sighting, a raise call or a record, and only a purge removes one. Slots and membership
together determine a store, so a store that takes over all records of another one is that
other store at the start of a run.
-/

namespace Alerting.Store

/-- What is stored about an entity. -/
def stored? (store : Store) (id : EntityId) : Option Entity := store.entities.get? id

theorem entity_eq_stored? (store : Store) (id : EntityId) :
    store.entity id = (store.stored? id).getD {} := rfl

theorem contains_eq_stored? (store : Store) (id : EntityId) :
    store.contains id = (store.stored? id).isSome := rfl

/-- What is stored is told by membership and by the slot. -/
theorem stored?_eq (store : Store) (id : EntityId) :
    store.stored? id = if store.contains id then some (store.entity id) else none := by
  rw [contains_eq_stored?, entity_eq_stored?]
  cases store.stored? id <;> rfl

/-- Two stores that agree on the settings, on membership and on all slots are the same. -/
theorem eq_of_slot_eq {first second : Store} (config : first.config = second.config)
    (policy : first.policy = second.policy)
    (contains : ∀ id, first.contains id = second.contains id)
    (slot : ∀ id, first.slot id = second.slot id) : first = second := by
  have entities : first.entities = second.entities := by
    apply SortedMap.eq_of_get?_eq
    intro id
    have entity : first.entity id = second.entity id := congrArg Slot.entity (slot id)
    exact (first.stored?_eq id).trans ((second.stored?_eq id).trans (by rw [contains, entity])).symm
  have decided : first.decided = second.decided := by
    apply SortedMap.eq_of_get?_eq
    intro id
    have marks : (first.decided.get? id).isSome = (second.decided.get? id).isSome :=
      congrArg Slot.isDecided (slot id)
    cases firstMark : first.decided.get? id <;> cases secondMark : second.decided.get? id <;>
      simp_all
  cases first
  cases second
  cases config
  cases policy
  cases entities
  cases decided
  rfl

/-! ## Membership after an operation -/

section Operations

variable (store : Store) (id other : EntityId)

theorem contains_update (change : Entity → Entity) :
    (store.update id change).contains other = (decide (other = id) || store.contains other) :=
  SortedMap.contains_insert _ _ _ _

theorem contains_see (tags : Tags) (seen : Instant) :
    (store.see id tags seen).contains other = (decide (other = id) || store.contains other) :=
  store.contains_update id other _

theorem contains_put (entry : EntityRecord) :
    (store.put entry).contains id = (decide (id = entry.entity) || store.contains id) :=
  store.contains_update entry.entity id _

/-- After a raise call its entity is stored. A decided one has been stored before. -/
theorem contains_raise (new : Severity) (now : Instant) :
    (store.raise id new now).2.contains other =
      (decide (other = id) || store.contains other) := by
  cases decided : store.isDecided id with
  | true =>
    rw [raise_of_isDecided decided]
    by_cases same : other = id
    · subst same
      have stored : store.contains other = true := store.stored_of_decided other decided
      simp [stored]
    · simp [same]
  | false =>
    simp only [contains, entities_raise decided, SortedMap.contains_insert]

theorem contains_restore (entries : List EntityRecord) :
    (store.restore entries).contains id =
      (entries.any (·.entity = id) || store.contains id) := by
  induction entries generalizing store with
  | nil => rfl
  | cons entry rest ih =>
    have step : store.restore (entry :: rest) = (store.put entry).restore rest := rfl
    rw [step, ih, contains_put, List.any_cons]
    by_cases same : id = entry.entity
    · simp [same]
    · simp [same, Ne.symm same]

end Operations

/-- A purge keeps the stored entities that are not older than its cutoff. -/
theorem stored?_purge (store : Store) (id : EntityId) (cutoff : Instant) :
    (store.purge cutoff).2.stored? id =
      (store.stored? id).filter fun entity => !isOlder cutoff entity :=
  SortedMap.get?_filter _ _ _

/-- Raise calls about stored entities create none. -/
theorem contains_raiseMissing (now : Instant) (id : EntityId)
    {sightings : List (EntityId × Instant)} {store : Store}
    (stored : ∀ sighting ∈ sightings, store.contains sighting.1 = true) :
    (StalenessLimit.raiseMissing now sightings store).2.contains id = store.contains id := by
  induction sightings generalizing store with
  | nil => rfl
  | cons sighting rest ih =>
    rw [StalenessLimit.raiseMissing_cons]
    refine (ih ?_).trans ?_
    · intro other member
      rw [contains_raise, stored other (List.mem_cons_of_mem _ member), Bool.or_true]
    · rw [contains_raise]
      by_cases same : id = sighting.1
      · simp [same, stored sighting List.mem_cons_self]
      · simp [same]

/-- An entity that was seen is stored. -/
theorem contains_of_lastSeen {store : Store} {id : EntityId} {last : Instant}
    (seen : (store.entity id).lastSeen = some last) : store.contains id = true := by
  rw [entity_eq_stored?] at seen
  rw [contains_eq_stored?]
  cases held : store.stored? id with
  | none => simp [held] at seen
  | some entity => rfl

/-- A search for missing entities creates none. -/
theorem contains_detect (limit : StalenessLimit) (store : Store) (now : Instant) (id : EntityId) :
    (limit.detect store now).2.contains id = store.contains id := by
  apply contains_raiseMissing
  intro sighting member
  exact contains_of_lastSeen (StalenessLimit.mem_stale.1 member).1

/-! ## Taking over all records -/

theorem any_records (store : Store) (id : EntityId) :
    store.records.any (·.entity = id) = store.contains id := by
  have accounts := store.filter_records id
  rw [contains_eq_stored?, stored?, Bool.eq_iff_iff, List.any_eq_true]
  cases held : store.entities.get? id with
  | none =>
    rw [held] at accounts
    have none : ∀ entry ∈ store.records, ¬ entry.entity = id := by
      simpa [List.filter_eq_nil_iff] using accounts
    simpa using none
  | some entity =>
    rw [held] at accounts
    have member : entity.record id ∈ store.records.filter fun entry => entry.entity = id := by
      simp [accounts]
    rw [List.mem_filter] at member
    simp only [Option.isSome_some, iff_true]
    exact ⟨entity.record id, member⟩

/-- A new store with the same settings that takes over all records is the old one at the
start of a run. -/
theorem restore_records (store : Store) :
    (empty store.config store.policy).restore store.records = store.newRun := by
  apply eq_of_slot_eq
  case config => exact config_restore _ _
  case policy => exact policy_restore _ _
  case contains =>
    intro id
    have none : (empty store.config store.policy).contains id = false := rfl
    rw [contains_restore, any_records, none, Bool.or_false]
    rfl
  case slot =>
    intro id
    exact store.slot_restore_records id store.config store.policy

end Alerting.Store
