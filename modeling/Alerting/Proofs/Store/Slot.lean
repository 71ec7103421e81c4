import Alerting.Proofs.SortedMap
import Alerting.Store

/-!
# Stores through their slots

What a store holds about an entity, and whether the entity carries a mark of the run, make
up its slot; an entity that is not stored has a blank one. Each operation of a store has one
equation that says which slot it leaves. All later arguments about stores rest on these
equations; none looks at the entries again.
-/

namespace Alerting

namespace Entity

/-- A full account of an entity tells a blank entity everything. -/
theorem apply_record_blank (entity : Entity) (id : EntityId) :
    Entity.apply {} (entity.record id) = entity := by
  cases entity
  simp [apply, record]

end Entity

/-- An entity, and whether the current run has decided about it. -/
structure Slot where
  entity : Entity
  isDecided : Bool

/-- The slot of an entity that nothing is known about. -/
def Slot.blank : Slot := ⟨{}, false⟩

namespace Store

def slot (store : Store) (id : EntityId) : Slot := ⟨store.entity id, store.isDecided id⟩

theorem entity_eq_slot (store : Store) (id : EntityId) :
    store.entity id = (store.slot id).entity := rfl

theorem isDecided_eq_slot (store : Store) (id : EntityId) :
    store.isDecided id = (store.slot id).isDecided := rfl

/-! ## Settings -/

section Settings

variable (store : Store) (id : EntityId)

@[simp] theorem config_update (change : Entity → Entity) :
    (store.update id change).config = store.config := rfl

@[simp] theorem policy_update (change : Entity → Entity) :
    (store.update id change).policy = store.policy := rfl

@[simp] theorem config_newRun : store.newRun.config = store.config := rfl

@[simp] theorem policy_newRun : store.newRun.policy = store.policy := rfl

@[simp] theorem config_raise (new : Severity) (now : Instant) :
    (store.raise id new now).2.config = store.config := by
  simp only [raise]
  split <;> rfl

@[simp] theorem policy_raise (new : Severity) (now : Instant) :
    (store.raise id new now).2.policy = store.policy := by
  simp only [raise]
  split <;> rfl

@[simp] theorem config_purge (cutoff : Instant) : (store.purge cutoff).2.config = store.config :=
  rfl

@[simp] theorem policy_purge (cutoff : Instant) : (store.purge cutoff).2.policy = store.policy :=
  rfl

@[simp] theorem config_restore (entries : List EntityRecord) :
    (store.restore entries).config = store.config := by
  induction entries generalizing store with
  | nil => rfl
  | cons entry rest ih => exact ih (store.put entry)

@[simp] theorem policy_restore (entries : List EntityRecord) :
    (store.restore entries).policy = store.policy := by
  induction entries generalizing store with
  | nil => rfl
  | cons entry rest ih => exact ih (store.put entry)

end Settings

/-! ## Slots after an operation -/

section Slots

variable (store : Store) (id other : EntityId)

theorem slot_update (change : Entity → Entity) :
    (store.update id change).slot other =
      if other = id then { store.slot id with entity := change (store.entity id) }
      else store.slot other := by
  by_cases same : other = id
  · subst same
    simp [update, slot, entity, isDecided, SortedMap.get?_insert]
  · simp [update, slot, entity, isDecided, SortedMap.get?_insert, same]

@[simp] theorem slot_newRun :
    store.newRun.slot id = { store.slot id with isDecided := false } := rfl

@[simp] theorem entity_newRun : store.newRun.entity id = store.entity id := rfl

@[simp] theorem isDecided_newRun : store.newRun.isDecided id = false := rfl

end Slots

section Raise

variable {store : Store} {id : EntityId}

/-- A raise call about a decided entity tells its severity and does nothing else. -/
theorem raise_of_isDecided (decided : store.isDecided id = true) (new : Severity)
    (now : Instant) :
    store.raise id new now = (.silent (store.entity id).current new, store) := by
  simp [raise, decided]

/-- The first raise call about an entity in a run answers by evaluating it. -/
theorem fst_raise_of_not_isDecided (undecided : store.isDecided id = false) (new : Severity)
    (now : Instant) :
    (store.raise id new now).1 =
      ((store.entity id).evaluate store.policy store.config.nagInterval new now).1 := by
  simp [raise, undecided]

theorem entities_raise (undecided : store.isDecided id = false) (new : Severity)
    (now : Instant) :
    (store.raise id new now).2.entities =
      store.entities.insert id
        ((store.entity id).evaluate store.policy store.config.nagInterval new now).2 := by
  simp [raise, undecided]

theorem decided_raise (undecided : store.isDecided id = false) (new : Severity)
    (now : Instant) :
    (store.raise id new now).2.decided = store.decided.insert id () := by
  simp [raise, undecided]

/-- The first raise call about an entity in a run evaluates it and marks it. -/
theorem slot_raise (store : Store) (id other : EntityId) (new : Severity) (now : Instant) :
    (store.raise id new now).2.slot other =
      if other = id ∧ store.isDecided id = false then
        ⟨((store.entity id).evaluate store.policy store.config.nagInterval new now).2, true⟩
      else store.slot other := by
  cases decided : store.isDecided id with
  | true => simp [raise_of_isDecided decided]
  | false =>
    rw [slot, Store.entity, Store.isDecided, entities_raise decided, decided_raise decided,
      SortedMap.get?_insert, SortedMap.contains_insert]
    by_cases same : other = id
    · simp [same]
    · simp [same, slot, entity, Store.isDecided]

theorem slot_raise_of_ne {other : EntityId} (different : other ≠ id) (new : Severity)
    (now : Instant) : (store.raise id new now).2.slot other = store.slot other := by
  simp [slot_raise, different]

@[simp] theorem isDecided_raise_self (store : Store) (id : EntityId) (new : Severity)
    (now : Instant) : (store.raise id new now).2.isDecided id = true := by
  cases decided : store.isDecided id with
  | true => rw [raise_of_isDecided decided, decided]
  | false => rw [isDecided_eq_slot, slot_raise, if_pos ⟨rfl, decided⟩]

end Raise

section Purge

variable (store : Store) (id : EntityId) (cutoff : Instant)

/-- A purge removes the stored entities that are older than its cutoff, and no other. -/
theorem contains_purge :
    (store.purge cutoff).2.contains id =
      (store.contains id && !isOlder cutoff (store.entity id)) := by
  simp only [purge, contains, SortedMap.contains, entity, SortedMap.get?_filter]
  cases store.entities.get? id with
  | none => rfl
  | some held => cases older : isOlder cutoff held <;> simp [Option.filter, older]

/-- Only stored entities can be old. -/
theorem contains_of_isOlder {store : Store} {id : EntityId} {cutoff : Instant}
    (older : isOlder cutoff (store.entity id) = true) : store.contains id = true := by
  simp only [contains, SortedMap.contains, entity] at *
  cases found : store.entities.get? id with
  | none => simp [found, isOlder] at older
  | some held => rfl

/-- The entity is stored, and a purge with this cutoff removes it. -/
def Forgets (store : Store) (cutoff : Instant) (id : EntityId) : Prop :=
  store.contains id = true ∧ (store.purge cutoff).2.contains id = false

instance : Decidable (store.Forgets cutoff id) := inferInstanceAs (Decidable (_ ∧ _))

theorem forgets_iff {store : Store} {cutoff : Instant} {id : EntityId} :
    store.Forgets cutoff id ↔ isOlder cutoff (store.entity id) = true := by
  rw [Forgets, contains_purge]
  constructor
  · rintro ⟨stored, removed⟩
    simpa [stored] using removed
  · intro older
    exact ⟨contains_of_isOlder older, by simp [older]⟩

theorem entity_purge :
    (store.purge cutoff).2.entity id =
      if isOlder cutoff (store.entity id) then {} else store.entity id := by
  have found : (store.purge cutoff).2.entities.get? id =
      (store.entities.get? id).filter fun entity => !isOlder cutoff entity :=
    SortedMap.get?_filter _ _ _
  rw [entity, found]
  rw [entity]
  cases store.entities.get? id with
  | none => simp [isOlder]
  | some held => cases older : isOlder cutoff held <;> simp [Option.filter, older]

theorem decided_purge :
    (store.purge cutoff).2.decided =
      if 0 < (store.purge cutoff).1 then
        store.decided.filter fun id _ => (store.purge cutoff).2.contains id
      else store.decided := rfl

/-- A purge takes the marks of the entities that it removes, and no other: where it leaves
the marks as they are, it has removed nothing. -/
theorem isDecided_purge :
    (store.purge cutoff).2.isDecided id =
      (store.isDecided id && !isOlder cutoff (store.entity id)) := by
  have kept := store.contains_purge id cutoff
  cases decided : store.isDecided id with
  | false =>
    rw [isDecided] at decided
    rw [isDecided, decided_purge]
    split
    · rw [SortedMap.contains_filter, decided]
      rfl
    · rw [decided]
      rfl
  | true =>
    have stored : store.contains id = true := store.stored_of_decided id decided
    rw [stored, Bool.true_and] at kept
    rw [isDecided] at decided
    rw [Bool.true_and, ← kept, isDecided, decided_purge]
    split
    · rw [SortedMap.contains_filter, decided, Bool.true_and]
    · rename_i none
      have whole : (store.purge cutoff).2.entities = store.entities :=
        SortedMap.filter_eq_self (Nat.eq_zero_of_not_pos none)
      rw [contains, whole, decided]
      exact stored.symm

theorem slot_purge :
    (store.purge cutoff).2.slot id =
      if isOlder cutoff (store.entity id) then .blank else store.slot id := by
  rw [slot, entity_purge, isDecided_purge]
  cases isOlder cutoff (store.entity id) with
  | true => simp [Slot.blank]
  | false => simp [slot]

end Purge

/-! ## Records -/

section Records

variable (store : Store) (id : EntityId)

theorem slot_put (entry : EntityRecord) :
    (store.put entry).slot id =
      if id = entry.entity then
        { store.slot id with entity := (store.entity id).apply entry }
      else store.slot id := by
  simp only [put, slot_update]
  split
  · rename_i same
    rw [same]
  · rfl

/-- After a restore, an entity has taken over its own records in their order. -/
theorem slot_restore (entries : List EntityRecord) :
    (store.restore entries).slot id =
      { store.slot id with
        entity := (entries.filter fun entry => entry.entity = id).foldl Entity.apply
          (store.entity id) } := by
  induction entries generalizing store with
  | nil => rfl
  | cons entry rest ih =>
    have step : store.restore (entry :: rest) = (store.put entry).restore rest := rfl
    rw [step, ih]
    simp only [entity_eq_slot, slot_put]
    by_cases same : id = entry.entity
    · simp [same]
    · simp [same, Ne.symm same]

/-- The records of a store hold one account of each stored entity. -/
theorem filter_records :
    (store.records.filter fun entry => entry.entity = id) =
      ((store.entities.get? id).map fun entity => entity.record id).toList := by
  have picked := store.entities.filter_key_toList id
  simp only [records, List.filter_map]
  rw [show ((fun entry : EntityRecord => decide (entry.entity = id)) ∘
      fun entry : EntityId × Entity => entry.2.record entry.1) =
      fun entry => decide (entry.1 = id) from rfl, picked]
  cases store.entities.get? id <;> rfl

/-- A new store that takes over all records knows what the old one knew. -/
theorem slot_restore_records (config : StoreConfig) (policy : TransitionPolicy) :
    ((empty config policy).restore store.records).slot id =
      { store.slot id with isDecided := false } := by
  rw [slot_restore, filter_records]
  change Slot.mk (List.foldl Entity.apply {} _) false = ⟨store.entity id, false⟩
  rw [entity]
  cases store.entities.get? id with
  | none => rfl
  | some held => exact congrArg (Slot.mk · false) (Entity.apply_record_blank held id)

end Records

end Store

end Alerting
