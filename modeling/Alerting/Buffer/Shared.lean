import Alerting.Buffer
import Mathlib.Data.Finset.Card
import Mathlib.Data.Fintype.Basic
import Mathlib.Logic.Function.Basic

/-!
# Buffers shared between threads

Any number of producers add to one buffer while a flusher takes everything out. An add
holds the shared side of a lock while it takes its two steps, the push and the count. A
flush holds the other side while it takes its own, so it waits until no add is under way,
and no add begins before it is over. Nothing else is known about the order of the steps.

The counter is read without the lock, in the middle of any add and of any flush.
-/

namespace Alerting

universe u v w

/-- How far a producer has come with an add. -/
inductive AddPhase where
  | idle
  /-- The producer holds the lock and has done nothing yet. -/
  | entered
  /-- The value is pushed and not yet counted. -/
  | pushed
  deriving DecidableEq

/-- One step of a thread. -/
inductive ThreadStep (ρ : Type u) (κ : Type v) (ν : Type w) where
  | enter (producer : ρ)
  | push (producer : ρ) (key : κ) (value : ν)
  /-- The count ends the add and gives the lock back. -/
  | count (producer : ρ)
  /-- The flusher gets the lock and takes the queues out. -/
  | take
  /-- The reset of the counter ends the flush and gives the lock back. -/
  | reset

/-- An operation of a thread, from its first step to its last. -/
inductive BufferOperation (ρ : Type u) (κ : Type v) (ν : Type w) where
  | add (producer : ρ) (key : κ) (value : ν)
  | flush

/-- A buffer, the producers that use it, and what was taken out of it. -/
structure SharedBuffer (ρ : Type u) (κ : Type v) (ν : Type w) where
  buffer : Buffer κ ν := .empty
  phase : ρ → AddPhase := fun _ => .idle
  /-- What the flush under way has taken out, if there is one. -/
  flushing : Option (List (κ × List ν)) := none
  /-- What the flushes returned, in their order. -/
  snapshots : List (List (κ × List ν)) := []

/-! ## What was added -/

section Added

variable {ρ : Type u} {κ : Type v} {ν : Type w} [DecidableEq κ]

/-- The value that a step adds under a key. -/
def ThreadStep.addedUnder (key : κ) : ThreadStep ρ κ ν → Option ν
  | .push _ other value => if key = other then some value else none
  | .enter _ | .count _ | .take | .reset => none

/-- The values that steps add under a key, in order. -/
def addedUnder (key : κ) (steps : List (ThreadStep ρ κ ν)) : List ν :=
  steps.filterMap (ThreadStep.addedUnder key)

/-- The steps of an operation. -/
def BufferOperation.steps : BufferOperation ρ κ ν → List (ThreadStep ρ κ ν)
  | .add producer key value => [.enter producer, .push producer key value, .count producer]
  | .flush => [.take, .reset]

/-- The buffer after a whole operation. -/
def BufferOperation.apply (buffer : Buffer κ ν) : BufferOperation ρ κ ν → Buffer κ ν
  | .add _ key value => buffer.add key value
  | .flush => buffer.flush.2

end Added

namespace SharedBuffer

variable {ρ : Type u} {κ : Type v} {ν : Type w}

/-- The snapshots of a key's queue, one after the other. -/
def takenUnder [DecidableEq κ] (shared : SharedBuffer ρ κ ν) (key : κ) : List ν :=
  shared.snapshots.flatMap fun snapshot => (snapshot.lookup key).getD []

/-- What the flush under way has taken from a key's queue. -/
def flushingUnder [DecidableEq κ] (shared : SharedBuffer ρ κ ν) (key : κ) : List ν :=
  ((shared.flushing.getD []).lookup key).getD []

variable [Fintype ρ] [DecidableEq ρ]

/-- The number of adds that have pushed their value and not counted it. -/
def uncounted (shared : SharedBuffer ρ κ ν) : Nat :=
  (Finset.univ.filter fun producer => shared.phase producer = .pushed).card

/-! ## Steps -/

variable [DecidableEq κ]

/-- The state after a step; none if the step cannot be taken now. -/
def step? (shared : SharedBuffer ρ κ ν) : ThreadStep ρ κ ν → Option (SharedBuffer ρ κ ν)
  | .enter producer =>
    if shared.phase producer = .idle ∧ shared.flushing.isNone then
      some { shared with phase := Function.update shared.phase producer .entered }
    else none
  | .push producer key value =>
    if shared.phase producer = .entered then
      some { shared with
        buffer := shared.buffer.push key value
        phase := Function.update shared.phase producer .pushed }
    else none
  | .count producer =>
    if shared.phase producer = .pushed then
      some { shared with
        buffer := shared.buffer.count
        phase := Function.update shared.phase producer .idle }
    else none
  | .take =>
    if (∀ producer, shared.phase producer = .idle) ∧ shared.flushing.isNone then
      let (snapshot, buffer) := shared.buffer.take
      some { shared with buffer, flushing := some snapshot }
    else none
  | .reset =>
    shared.flushing.map fun snapshot =>
      { shared with
        buffer := shared.buffer.reset
        flushing := none
        snapshots := shared.snapshots ++ [snapshot] }

/-- The state after steps, if each of them can be taken in its turn. -/
def run? (shared : SharedBuffer ρ κ ν) :
    List (ThreadStep ρ κ ν) → Option (SharedBuffer ρ κ ν)
  | [] => some shared
  | step :: rest => (shared.step? step).bind fun next => next.run? rest

end SharedBuffer

end Alerting
