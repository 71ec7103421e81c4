import Alerting.Proofs.Store.Detection

/-!
# Calls to a store

The calls that an evaluation makes while a run lasts, and the operations that bring in
records from outside. An entity is named by its identity; a call that gives a namespace,
an alert and tags instead is the call for the identity derived from them.
-/

namespace Alerting

/-- What an evaluation does to a store within a run. -/
inductive Call where
  | raise (id : EntityId) (new : Severity) (now : Instant)
  | see (id : EntityId) (tags : Tags) (seen : Instant)
  | detect (limit : StalenessLimit) (now : Instant)
  | purge (cutoff : Instant)

/-- What anybody does to a store within a run. -/
inductive Operation where
  | ofCall (call : Call)
  | put (entry : EntityRecord)
  | restore (entries : List EntityRecord)

namespace Call

/-- The store after a call. -/
def apply (store : Store) : Call → Store
  | .raise id new now => (store.raise id new now).2
  | .see id tags seen => store.see id tags seen
  | .detect limit now => (limit.detect store now).2
  | .purge cutoff => (store.purge cutoff).2

/-- What a call answers about entities, directly or in a report. -/
def results (store : Store) : Call → List (EntityId × StateChange)
  | .raise id new now => [(id, (store.raise id new now).1)]
  | .detect limit now =>
    (limit.detect store now).1.map fun reported => (reported.entity, reported.change)
  | .see _ _ _ | .purge _ => []

@[simp] theorem policy_apply (store : Store) (call : Call) :
    (call.apply store).policy = store.policy := by
  cases call with
  | raise id new now => simp [apply]
  | see id tags seen => rfl
  | detect limit now => simp [apply]
  | purge cutoff => rfl

@[simp] theorem config_apply (store : Store) (call : Call) :
    (call.apply store).config = store.config := by
  cases call with
  | raise id new now => simp [apply]
  | see id tags seen => rfl
  | detect limit now => simp [apply]
  | purge cutoff => rfl

end Call

namespace Operation

/-- The store after an operation. -/
def apply (store : Store) : Operation → Store
  | .ofCall call => call.apply store
  | .put entry => store.put entry
  | .restore entries => store.restore entries

/-- What an operation answers about entities. -/
def results (store : Store) : Operation → List (EntityId × StateChange)
  | .ofCall call => call.results store
  | .put _ | .restore _ => []

/-- An operation removes an entity if it is a purge after which the entity is gone. -/
def removes (store : Store) (id : EntityId) : Operation → Bool
  | .ofCall (.purge cutoff) => store.contains id && !(store.purge cutoff).2.contains id
  | _ => false

/-- What a sequence of operations answers about entities. -/
def allResults (store : Store) : List Operation → List (EntityId × StateChange)
  | [] => []
  | operation :: rest =>
    operation.results store ++ allResults (operation.apply store) rest

/-- The number of operations of a sequence that remove an entity. -/
def removals (store : Store) (id : EntityId) : List Operation → Nat
  | [] => 0
  | operation :: rest =>
    (operation.removes store id).toNat + removals (operation.apply store) id rest

end Operation

end Alerting
