import Alerting.Store

/-!
# Missing entities

An entity that falls silent sends nothing that could be evaluated. Detection therefore
walks over the stored entities and decides `missing` for each one that has been silent
for longer than allowed. It runs inside a run: an entity that live data decided about is
left alone, and one that was never seen is not looked at.
-/

namespace Alerting

/-- The longest silence that is allowed. -/
structure StalenessLimit where
  seconds : Seconds
  seconds_pos : 0 < seconds

/-- A limit is known by its seconds. -/
theorem StalenessLimit.eq_of_seconds_eq {first second : StalenessLimit}
    (same : first.seconds = second.seconds) : first = second := by
  cases first
  cases second
  cases same
  rfl

instance : DecidableEq StalenessLimit := fun first second =>
  if same : first.seconds = second.seconds then isTrue (StalenessLimit.eq_of_seconds_eq same)
  else isFalse fun equal => same (congrArg StalenessLimit.seconds equal)

/-- An entity that was decided to be missing and must be told about. -/
structure MissingEntity where
  entity : EntityId
  /-- The tags of the entity, if its store keeps them. -/
  tags : Option Tags
  lastSeen : Instant
  change : StateChange
  deriving DecidableEq

namespace StalenessLimit

/-- Accepts a positive number of seconds. -/
def ofSeconds (seconds : Seconds) : Except SettingError StalenessLimit :=
  if zero : seconds = 0 then .error .zeroStaleness
  else .ok ⟨seconds, Seconds.pos_of_ne_zero zero⟩

/-- What was last seen before this instant is stale. -/
def deadline (limit : StalenessLimit) (now : Instant) : Instant := now.ago limit.seconds

/-- The stale entities of a store and when they were last seen, in order. -/
def stale (limit : StalenessLimit) (store : Store) (now : Instant) :
    List (EntityId × Instant) :=
  store.entities.toList.filterMap fun entry =>
    match entry.2.lastSeen with
    | none => none
    | some last => if last < limit.deadline now then some (entry.1, last) else none

/-- Decides `missing` for the listed entities and collects those to be told about. -/
def raiseMissing (now : Instant) :
    List (EntityId × Instant) → Store → List MissingEntity × Store
  | [], store => ([], store)
  | (id, lastSeen) :: rest, store =>
    let (change, store) := store.raise id .missing now
    let (others, after) := raiseMissing now rest store
    if change.shouldRaise then (⟨id, (store.entity id).tags, lastSeen, change⟩ :: others, after)
    else (others, after)

/-- Decides `missing` for every stale entity. -/
def detect (limit : StalenessLimit) (store : Store) (now : Instant) :
    List MissingEntity × Store :=
  raiseMissing now (limit.stale store now) store

end StalenessLimit

end Alerting
