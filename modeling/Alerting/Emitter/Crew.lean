import Alerting.Emitter
import Mathlib.Logic.Relation

/-!
# The workers of a pool

The workers of a pool share its queue and take their steps at their own pace. A free worker
takes the oldest group, hands it to the final sink and is free again; a failure of the sink
changes nothing about that. Once the queue is closed and empty, a free worker leaves. A crew
keeps the books beside the pool: what was accepted and what was taken so far.

A shift is a crew at work while groups are offered to its queue by any number of submitters,
until the last of them has gone. Offers, steps of workers and the end of the offers come in
any order. The lock that the workers take their groups under only decides which of the free
ones is next, and here it may be any of them.
-/

namespace Alerting

/-- What a worker is about. -/
inductive WorkerPhase where
  | free
  /-- The worker took a group and has not handed it over yet. -/
  | busy (group : AlertGroup)
  | gone
  deriving DecidableEq

/-- A worker of a pool. -/
structure Worker where
  phase : WorkerPhase := .free
  /-- The number of groups that the final sink took from this worker. -/
  emitted : Nat := 0
  deriving DecidableEq

namespace Worker

/-- The group that a worker has in its hands. -/
def group? (worker : Worker) : Option AlertGroup :=
  match worker.phase with
  | .busy group => some group
  | .free | .gone => none

/--
What waiting for workers one after the other reports: the number of groups that the final
sink took from them. There is no report while one of them is at work.
-/
def join? : List Worker → Option Nat
  | [] => some 0
  | worker :: rest =>
    if worker.phase = .gone then (join? rest).map (worker.emitted + ·) else none

end Worker

/-- A pool, its workers and the final sink that they share. -/
structure Crew (σ : Type) where
  pool : EmitterPool
  workers : List Worker
  sinkState : σ
  /-- Whether there is anyone left who may submit a group. -/
  isOpen : Bool := true
  /-- The groups that the queue accepted, in order. -/
  accepted : List AlertGroup := []
  /-- The groups that the workers took, in order. -/
  taken : List AlertGroup := []

namespace Crew

variable {σ : Type}

/-- A pool with free workers. -/
def ofPool (pool : EmitterPool) (state : σ) : Crew σ where
  pool := pool
  workers := List.replicate pool.workers {}
  sinkState := state

/-- Offers a group to the queue. -/
def offer (crew : Crew σ) (group : AlertGroup) : Submission × Crew σ :=
  let (submission, pool) := EmitterPool.submit group crew.pool
  (submission,
    { crew with
      pool
      accepted := if submission.isAccepted then crew.accepted ++ [group] else crew.accepted })

/-- Nobody submits groups any more. -/
def close (crew : Crew σ) : Crew σ := { crew with isOpen := false }

/-- The groups that were handed to the final sink, in order. -/
def handedOver (crew : Crew σ) : List AlertGroup := crew.pool.handled.map Prod.fst

/-- The groups that workers have in their hands. -/
def inHands (crew : Crew σ) : List AlertGroup := crew.workers.filterMap Worker.group?

/-- All workers are gone. -/
def IsOver (crew : Crew σ) : Prop := ∀ worker ∈ crew.workers, worker.phase = .gone

/-- One step of one worker. -/
inductive Step (sink : Sink σ) (crew : Crew σ) : Crew σ → Prop where
  | take {before after : List Worker} {emitted : Nat} {group : AlertGroup} {pool : EmitterPool}
      (worker : crew.workers = before ++ ⟨.free, emitted⟩ :: after)
      (next : crew.pool.take? = some (group, pool)) :
      Step sink crew { crew with
        pool
        workers := before ++ ⟨.busy group, emitted⟩ :: after
        taken := crew.taken ++ [group] }
  | deliver {before after : List Worker} {emitted : Nat} {group : AlertGroup}
      (worker : crew.workers = before ++ ⟨.busy group, emitted⟩ :: after) :
      Step sink crew { crew with
        pool := (crew.pool.deliver sink group crew.sinkState).1
        sinkState := (crew.pool.deliver sink group crew.sinkState).2
        workers := before ++
          ⟨.free, emitted + (sink group crew.sinkState).1.isAccepted.toNat⟩ :: after }
  | leave {before after : List Worker} {emitted : Nat}
      (worker : crew.workers = before ++ ⟨.free, emitted⟩ :: after)
      (closed : crew.isOpen = false) (empty : crew.pool.queue = []) :
      Step sink crew { crew with workers := before ++ ⟨.gone, emitted⟩ :: after }

end Crew

/-! ## Shifts -/

/-- A crew at work, and the answers that its submitters got so far. -/
structure Shift (σ : Type) where
  crew : Crew σ
  /-- The groups that were offered, in order, each with its answer. -/
  offers : List (AlertGroup × Submission) := []

namespace Shift

variable {σ : Type}

/-- A shift of a pool that begins. -/
def start (pool : EmitterPool) (state : σ) : Shift σ := { crew := .ofPool pool state }

/-- One step of a submitter or of a worker. -/
inductive Step (sink : Sink σ) (shift : Shift σ) : Shift σ → Prop where
  | offer (group : AlertGroup) (opened : shift.crew.isOpen = true) :
      Step sink shift
        { crew := (shift.crew.offer group).2
          offers := shift.offers ++ [(group, (shift.crew.offer group).1)] }
  /-- The last submitter goes away. -/
  | close : Step sink shift { shift with crew := shift.crew.close }
  | work {crew : Crew σ} (step : Crew.Step sink shift.crew crew) :
      Step sink shift { shift with crew }

/-- The shifts that steps lead to. -/
abbrev Reaches (sink : Sink σ) : Shift σ → Shift σ → Prop := Relation.ReflTransGen (Step sink)

/-- The offered groups that were accepted, in order. -/
def accepted (shift : Shift σ) : List AlertGroup :=
  (shift.offers.filter fun entry => entry.2.isAccepted).map Prod.fst

end Shift

end Alerting
