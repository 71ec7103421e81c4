import Alerting.Alert
import Alerting.EntityRecord
import Alerting.NagInterval
import Alerting.Transition

/-!
# Stores

A store holds what one alert knows about its entities and decides, evaluation by
evaluation, whether somebody must be told. Each entity is decided at most once per run:
the first decision marks it, and later ones in the same run change nothing. The marks are
kept beside the entities, and a store carries the fact that only stored entities have one.
-/

namespace Alerting

/-- What is known about one entity. -/
structure Entity where
  current : Severity := .good
  /-- The severity before the last change. -/
  previous : Severity := .good
  /-- When the last notification went out; zero after a change that sent none. -/
  nagTimestamp : Instant := 0
  lastSeen : Option Instant := none
  tags : Option Tags := none
  deriving DecidableEq, Inhabited

namespace Entity

/-- The severity `new` differs from the current one. -/
def change (policy : TransitionPolicy) (entity : Entity) (new : Severity) (now : Instant) :
    StateChange × Entity :=
  let raises := policy entity.current new
  (⟨entity.current, new, false, raises⟩,
    { entity with
      current := new
      previous := entity.current
      nagTimestamp := if raises then now else 0 })

/-- The severity stays what it was. -/
def persist (policy : TransitionPolicy) (interval : NagInterval) (entity : Entity)
    (now : Instant) : StateChange × Entity :=
  if entity.current.isHealthy then
    (.silent entity.previous entity.current, { entity with nagTimestamp := 0 })
  else if policy entity.previous entity.current && interval.isDue now entity.nagTimestamp then
    (⟨entity.previous, entity.current, true, true⟩, { entity with nagTimestamp := now })
  else (.silent entity.previous entity.current, entity)

/-- Evaluates an entity that is reported with the severity `new`. -/
def evaluate (policy : TransitionPolicy) (interval : NagInterval) (entity : Entity)
    (new : Severity) (now : Instant) : StateChange × Entity :=
  if new = entity.current then entity.persist policy interval now
  else entity.change policy new now

/-- Takes note of a data point. The newest time counts, and the first tags are kept. -/
def see (preservesIdentity : Bool) (entity : Entity) (tags : Tags) (seen : Instant) : Entity :=
  { entity with
    lastSeen :=
      match entity.lastSeen with
      | none => some seen
      | some last => some (if last < seen then seen else last)
    tags :=
      match entity.tags with
      | some known => some known
      | none => if preservesIdentity then some tags else none }

/-- The full account of an entity. -/
def record (id : EntityId) (entity : Entity) : EntityRecord where
  entity := id
  tags := entity.tags
  current := some entity.current
  previous := some entity.previous
  lastSeen := entity.lastSeen
  nagTimestamp := some entity.nagTimestamp

/-- Overwrites what a record speaks about and keeps the rest. -/
def apply (entity : Entity) (entry : EntityRecord) : Entity where
  tags := entry.tags <|> entity.tags
  current := entry.current.getD entity.current
  previous := entry.previous.getD entity.previous
  lastSeen := entry.lastSeen <|> entity.lastSeen
  nagTimestamp := entry.nagTimestamp.getD entity.nagTimestamp

end Entity

/-- The settings of a store. -/
structure StoreConfig where
  nagInterval : NagInterval
  /-- Entities keep their tags, so that they can be described after they fall silent. -/
  preservesIdentity : Bool
  deriving DecidableEq, Repr

/-- The entities of one alert, and which of them the current run has decided about. -/
structure Store where
  config : StoreConfig
  policy : TransitionPolicy
  entities : SortedMap EntityId Entity
  /-- The marks of the current run. -/
  decided : SortedMap EntityId Unit
  /-- Only stored entities carry a mark. -/
  stored_of_decided : ∀ id, decided.contains id = true → entities.contains id = true

namespace Store

/-- A store without entities. -/
def empty (config : StoreConfig) (policy : TransitionPolicy) : Store where
  config := config
  policy := policy
  entities := ∅
  decided := ∅
  stored_of_decided _ marked := marked

/-- What is known about an entity; nothing is known about one that is not stored. -/
def entity (store : Store) (id : EntityId) : Entity := (store.entities.get? id).getD {}

/-- Whether the current run has decided about an entity. -/
def isDecided (store : Store) (id : EntityId) : Bool := store.decided.contains id

def contains (store : Store) (id : EntityId) : Bool := store.entities.contains id

def size (store : Store) : Nat := store.entities.size

/-- The stored entities, in order. -/
def ids (store : Store) : List EntityId := store.entities.keys

/-- The number of entities that the current run has decided about. -/
def decidedCount (store : Store) : Nat := store.decided.size

/-- Replaces what is known about an entity. -/
def update (store : Store) (id : EntityId) (change : Entity → Entity) : Store :=
  { store with
    entities := store.entities.insert id (change (store.entity id))
    stored_of_decided := fun other marked => by
      rw [SortedMap.contains_insert, store.stored_of_decided other marked, Bool.or_true] }

/-- Starts the next run: every entity may be decided about again. -/
def newRun (store : Store) : Store :=
  { store with
    decided := ∅
    stored_of_decided := fun _ marked => nomatch marked }

/-- A store with the same entities that starts a run of its own. -/
def copy (store : Store) : Store := store.newRun

/-- Decides about an entity reported with the severity `new`, once per run. -/
def raise (store : Store) (id : EntityId) (new : Severity) (now : Instant) :
    StateChange × Store :=
  if store.isDecided id then (.silent (store.entity id).current new, store)
  else
    let (change, entity) :=
      (store.entity id).evaluate store.policy store.config.nagInterval new now
    (change, { store with
      entities := store.entities.insert id entity
      decided := store.decided.insert id ()
      stored_of_decided := fun other marked => by
        rw [SortedMap.contains_insert, Bool.or_eq_true] at marked ⊢
        exact marked.imp_right (store.stored_of_decided other) })

/-- Takes note of a data point of an entity. -/
def see (store : Store) (id : EntityId) (tags : Tags) (seen : Instant) : Store :=
  store.update id fun entity => entity.see store.config.preservesIdentity tags seen

/-- An entity that was last seen before the cutoff; one that was never seen is not. -/
def isOlder (cutoff : Instant) (entity : Entity) : Bool :=
  match entity.lastSeen with
  | none => false
  | some last => last < cutoff

/--
Forgets the entities last seen before the cutoff, and says how many they were. If there
are any, their marks go with them.
-/
def purge (store : Store) (cutoff : Instant) : Nat × Store :=
  let kept := store.entities.filter fun _ entity => !isOlder cutoff entity
  let removed := store.size - kept.size
  (removed, { store with
    entities := kept
    decided :=
      if 0 < removed then store.decided.filter fun id _ => kept.contains id else store.decided
    stored_of_decided := fun id marked => by
      by_cases some : 0 < removed
      · rw [if_pos some, SortedMap.contains_filter, Bool.and_eq_true] at marked
        exact marked.2
      · rw [if_neg some] at marked
        rw [show kept = store.entities from
          SortedMap.filter_eq_self (Nat.eq_zero_of_not_pos some)]
        exact store.stored_of_decided id marked })

/-- Full accounts of all entities, in order. -/
def records (store : Store) : List EntityRecord :=
  store.entities.toList.map fun entry => entry.2.record entry.1

/-- Takes over one record. -/
def put (store : Store) (entry : EntityRecord) : Store :=
  store.update entry.entity fun entity => entity.apply entry

/-- Takes over records, one after the other. -/
def restore (store : Store) (entries : List EntityRecord) : Store := entries.foldl put store

end Store

end Alerting
