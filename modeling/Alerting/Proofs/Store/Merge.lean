import Alerting.Proofs.Store.Membership

/-!
# Restoring as merging

Records are taken over one after the other, and a record may leave fields out. What comes
of a list of them is told field by field: a field of an entity has the value of the last
record about the entity that carries it, and where no record does, the value from before.
So only the order among the records of one entity counts, taking over the same list again
changes nothing, and neither does a store's own account of itself.
-/

namespace Alerting

namespace EntityRecord

/-- The records of a list that speak about an entity, in their order. -/
abbrev about (id : EntityId) (entries : List EntityRecord) : List EntityRecord :=
  entries.filter fun entry => entry.entity = id

/-- The value of a field in the last record that carries it; none if no record does. -/
def lastGiven {α : Type} (field : EntityRecord → Option α) (entries : List EntityRecord) :
    Option α :=
  (entries.filterMap field).getLast?

/-- The last record decides if it carries the field, the ones before it otherwise. -/
theorem lastGiven_cons {α : Type} (field : EntityRecord → Option α) (entry : EntityRecord)
    (rest : List EntityRecord) :
    lastGiven field (entry :: rest) = (lastGiven field rest <|> field entry) := by
  rw [lastGiven, List.filterMap_cons, lastGiven]
  cases field entry with
  | none => simp
  | some value => cases later : (rest.filterMap field).getLast? <;> simp [List.getLast?_cons, later]

theorem any_eq_about (id : EntityId) (entries : List EntityRecord) :
    (entries.any (·.entity = id)) = !(about id entries).isEmpty := by
  induction entries with
  | nil => rfl
  | cons entry rest ih => by_cases same : entry.entity = id <;> simp [same, ih]

end EntityRecord

namespace Entity

open EntityRecord

/-- An entity after records about it: each field as the last record to carry it has it. -/
def merge (entity : Entity) (entries : List EntityRecord) : Entity where
  current := (lastGiven (·.current) entries).getD entity.current
  previous := (lastGiven (·.previous) entries).getD entity.previous
  nagTimestamp := (lastGiven (·.nagTimestamp) entries).getD entity.nagTimestamp
  lastSeen := lastGiven (·.lastSeen) entries <|> entity.lastSeen
  tags := lastGiven (·.tags) entries <|> entity.tags

theorem merge_cons (entity : Entity) (entry : EntityRecord) (rest : List EntityRecord) :
    entity.merge (entry :: rest) = (entity.apply entry).merge rest := by
  simp only [merge, apply, lastGiven_cons, Option.orElse_eq_orElse, Option.orElse_eq_or,
    Option.getD_or, Option.or_assoc]

/-- Taking over records one after the other merges them. -/
theorem foldl_apply (entity : Entity) (entries : List EntityRecord) :
    entries.foldl apply entity = entity.merge entries := by
  induction entries generalizing entity with
  | nil => rfl
  | cons entry rest ih => rw [List.foldl_cons, ih, merge_cons]

/-- What the records carry is there already after the first time. -/
theorem merge_merge (entity : Entity) (entries : List EntityRecord) :
    (entity.merge entries).merge entries = entity.merge entries := by
  have value {α : Type} (given : Option α) (old : α) :
      given.getD (given.getD old) = given.getD old := by
    cases given <;> rfl
  have field {α : Type} (given old : Option α) : (given <|> (given <|> old)) = (given <|> old) := by
    cases given <;> rfl
  simp only [merge, value, field]

/-- A full account tells an entity nothing new. -/
theorem apply_record_self (entity : Entity) (id : EntityId) :
    entity.apply (entity.record id) = entity := by
  rcases entity with ⟨current, previous, nagTimestamp, lastSeen, tags⟩
  cases lastSeen <;> cases tags <;> rfl

end Entity

namespace Store

open EntityRecord

variable (store : Store) (id : EntityId) (entries : List EntityRecord)

@[simp] theorem decided_restore : (store.restore entries).decided = store.decided := by
  induction entries generalizing store with
  | nil => rfl
  | cons entry rest ih => exact ih (store.put entry)

theorem slot_restore_eq_merge :
    (store.restore entries).slot id =
      { store.slot id with entity := (store.entity id).merge (about id entries) } := by
  rw [slot_restore, Entity.foldl_apply]

/-- A named entity is merged into what was stored about it, or into a blank one; the
others stay as they were. -/
theorem stored?_restore :
    (store.restore entries).stored? id =
      if entries.any (·.entity = id) then some ((store.entity id).merge (about id entries))
      else store.stored? id := by
  have entity : (store.restore entries).entity id = (store.entity id).merge (about id entries) :=
    congrArg Slot.entity (store.slot_restore_eq_merge id entries)
  rw [stored?_eq, contains_restore, entity]
  cases named : entries.any (·.entity = id) with
  | true => rfl
  | false =>
    have unnamed : about id entries = [] := by simpa [any_eq_about] using named
    rw [unnamed, stored?_eq]
    rfl

variable {entries}

/-- Only the order among the records of one entity counts. -/
theorem restore_congr {others : List EntityRecord}
    (same : ∀ id, about id others = about id entries) :
    store.restore others = store.restore entries := by
  apply eq_of_slot_eq
  case config => rw [config_restore, config_restore]
  case policy => rw [policy_restore, policy_restore]
  case contains =>
    intro id
    rw [contains_restore, contains_restore, any_eq_about, any_eq_about, same]
  case slot =>
    intro id
    rw [slot_restore_eq_merge, slot_restore_eq_merge, same]

variable (entries)

theorem restore_restore : (store.restore entries).restore entries = store.restore entries := by
  apply eq_of_slot_eq
  case config => exact config_restore _ _
  case policy => exact policy_restore _ _
  case contains =>
    intro id
    rw [contains_restore, contains_restore]
    cases entries.any (·.entity = id) <;> rfl
  case slot =>
    intro id
    rw [slot_restore_eq_merge, entity_eq_slot, slot_restore_eq_merge]
    exact congrArg (Slot.mk · _) ((store.entity id).merge_merge (about id entries))

/-- A store that takes over its own records stays as it is. -/
theorem restore_records_self : store.restore store.records = store := by
  apply eq_of_slot_eq
  case config => exact config_restore _ _
  case policy => exact policy_restore _ _
  case contains =>
    intro id
    rw [contains_restore, any_records, Bool.or_self]
  case slot =>
    intro id
    rw [slot_restore, filter_records]
    cases held : store.entities.get? id with
    | none => rfl
    | some entity =>
      have known : store.entity id = entity := by rw [Store.entity, held]; rfl
      have same := entity.apply_record_self id
      rw [← known] at same ⊢
      exact congrArg (Slot.mk · (store.isDecided id)) same

/--
After records are taken over, an entity that they name has, field by field, what the last
record about it that carries the field says, and otherwise what was stored about it, or the
blank value if it was not stored. Entities that are not named and the marks of the run stay
as they were. The order among records of different entities does not matter, a second time
changes nothing, and neither does a store's own account.
-/
theorem restore_merges_last_given :
    (∀ id, (store.restore entries).stored? id =
      if entries.any (·.entity = id) then
        let before := (store.stored? id).getD ⟨.good, .good, 0, none, none⟩
        some
          { current := (lastGiven (·.current) (about id entries)).getD before.current
            previous := (lastGiven (·.previous) (about id entries)).getD before.previous
            nagTimestamp :=
              (lastGiven (·.nagTimestamp) (about id entries)).getD before.nagTimestamp
            lastSeen := lastGiven (·.lastSeen) (about id entries) <|> before.lastSeen
            tags := lastGiven (·.tags) (about id entries) <|> before.tags }
      else store.stored? id) ∧
    (store.restore entries).decided = store.decided ∧
    (∀ others : List EntityRecord, (∀ id, about id others = about id entries) →
      store.restore others = store.restore entries) ∧
    (store.restore entries).restore entries = store.restore entries ∧
    store.restore store.records = store := by
  refine ⟨fun id => ?_, store.decided_restore entries, fun _ same => store.restore_congr same,
    store.restore_restore entries, store.restore_records_self⟩
  rw [stored?_restore, entity_eq_stored?]
  rfl

/-- Sparse records of two entities, one of them stored and marked, in two orders. -/
theorem restore_merges_last_given_interleaved :
    let store := ((empty ⟨.every 60, true⟩ TransitionRules.unhealthyOnly.policy).raise 1 .bad 1000).2
    let entries : List EntityRecord :=
      [{ entity := 1, current := some .warn, lastSeen := some 950 },
        { entity := 2, nagTimestamp := some 7 }, { entity := 1, current := some .unknown },
        { entity := 2, lastSeen := some 3 }]
    let others : List EntityRecord :=
      [{ entity := 2, nagTimestamp := some 7 }, { entity := 2, lastSeen := some 3 },
        { entity := 1, current := some .warn, lastSeen := some 950 },
        { entity := 1, current := some .unknown }]
    (∀ id, about id others = about id entries) ∧
      store.restore others = store.restore entries ∧
      (store.restore entries).stored? 1 = some ⟨.unknown, .good, 1000, some 950, none⟩ ∧
      (store.restore entries).stored? 2 = some ⟨.good, .good, 7, some 3, none⟩ ∧
      (store.restore entries).decided = store.decided := by
  intro store entries others
  have same (id : EntityId) : about id others = about id entries := by
    by_cases first : (1 : EntityId) = id
    · subst first
      decide
    · by_cases second : (2 : EntityId) = id
      · subst second
        decide
      · simp [about, others, entries, first, second]
  rcases restore_merges_last_given store entries with ⟨-, decided, interleaved, -, -⟩
  exact ⟨same, interleaved others same, by decide, by decide, decided⟩

end Store

end Alerting
