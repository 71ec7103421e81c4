import Alerting.Sink

/-!
# Emitter pools

A bounded queue between the flush and the final sink. Submitting never waits: a group
that finds no room is refused. Workers take groups in the order in which they were
accepted and hand each to the final sink; a failing group costs nothing but itself.

Sizes are bounded by what can be addressed. That there is memory for what is within these
bounds is taken for granted.
-/

namespace Alerting

/-- Workers that share a queue, and what became of the groups they handed over. -/
structure EmitterPool where
  workers : Nat
  capacity : Nat
  queue : List AlertGroup := []
  handled : List (AlertGroup × Submission) := []
  deriving DecidableEq

namespace EmitterPool

/-- The greatest capacity that a queue can be created with. -/
def maxCapacity : Nat := UInt64.size / 8 - 1

/-- The greatest number of workers that a pool has room to list. -/
def maxWorkers : Nat := UInt64.size / 16 - 1

/--
A pool with an empty queue, unless no queue of this capacity, or no list of that many
workers, can be created.
-/
def create? (workers capacity : Nat) : Option EmitterPool :=
  if capacity = 0 ∨ maxCapacity < capacity then none
  else if maxWorkers < workers then none
  else some { workers, capacity }

/-- Offers a group to the queue. A pool without workers accepts nothing. -/
def submit : Sink EmitterPool := fun group pool =>
  if pool.workers = 0 then (.refused .closed, pool)
  else if pool.capacity ≤ pool.queue.length then (.refused .full, pool)
  else (.accepted, { pool with queue := pool.queue ++ [group] })

/-- A worker takes the oldest group. -/
def take? (pool : EmitterPool) : Option (AlertGroup × EmitterPool) :=
  match pool.queue with
  | [] => none
  | group :: queue => some (group, { pool with queue })

/-- A worker hands a group that it took to the final sink. -/
def deliver {σ : Type} (sink : Sink σ) (group : AlertGroup) (pool : EmitterPool) (state : σ) :
    EmitterPool × σ :=
  let (submission, state) := sink group state
  ({ pool with handled := pool.handled ++ [(group, submission)] }, state)

/-- The workers take and deliver up to `count` groups. -/
def work {σ : Type} (sink : Sink σ) : Nat → EmitterPool → σ → EmitterPool × σ
  | 0, pool, state => (pool, state)
  | count + 1, pool, state =>
    match pool.take? with
    | none => (pool, state)
    | some (group, pool) =>
      let (pool, state) := pool.deliver sink group state
      work sink count pool state

/-- The workers empty the queue. -/
def drain {σ : Type} (sink : Sink σ) (pool : EmitterPool) (state : σ) : EmitterPool × σ :=
  work sink pool.queue.length pool state

/-- The number of groups that the final sink took. -/
def emitted (pool : EmitterPool) : Nat :=
  (pool.handled.filter fun entry => entry.2.isAccepted).length

/-- What is logged about a group that was handed over. -/
def logLine? (group : AlertGroup) : Submission → Option String
  | .accepted => none
  | .refused _ => some (group.key.display ++ ": emit failed")
  | .crashed _ => some (group.key.display ++ ": emit task failed")

/-- What is logged about the groups that the final sink did not take. -/
def logLines (pool : EmitterPool) : List String :=
  pool.handled.filterMap fun entry => logLine? entry.1 entry.2

end EmitterPool

end Alerting
