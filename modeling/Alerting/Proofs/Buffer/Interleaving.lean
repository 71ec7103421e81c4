import Alerting.Buffer.Shared
import Alerting.Proofs.Buffer

/-!
# What threads make of a shared buffer

In every state that some order of the steps leads to, each value that was pushed is in one
snapshot, in the hands of a flush that is under way, or still in the buffer, in the order of
the pushes of its key. The counter is behind the values that are buffered or in the hands of
a flush by the adds that stand between their two steps, and by nothing else.

While no flush is under way this is a law of the buffer alone. Inside a flush, between its
two steps, the counter still counts what the flush has taken, so it exceeds what the buffer
holds.
-/

namespace Alerting

universe u v w

namespace Buffer

variable {κ : Type v} {ν : Type w}

/-- No key has two queues, and none has an empty one. -/
structure Sound (queues : List (κ × List ν)) : Prop where
  distinct : (queues.map Prod.fst).Nodup
  filled : ∀ queue ∈ queues, queue.2 ≠ []

theorem sound_nil : Sound ([] : List (κ × List ν)) := ⟨List.nodup_nil, by simp⟩

/-- The number of values in the queues. -/
def held (buffer : Buffer κ ν) : Nat := sumOf (fun queue => queue.2.length) buffer.queues

variable [DecidableEq κ]

theorem held_push (buffer : Buffer κ ν) (key : κ) (value : ν) :
    (buffer.push key value).held = buffer.held + 1 :=
  sumOf_length_enqueue key value buffer.queues

theorem queue_push (buffer : Buffer κ ν) (key : κ) (value : ν) (other : κ) :
    (buffer.push key value).queue other =
      buffer.queue other ++ if other = key then [value] else [] :=
  queue_add key value buffer other

/-- No queue comes into being without a value. -/
theorem ne_nil_of_mem_enqueue {key : κ} {value : ν} {queues : List (κ × List ν)}
    (filled : ∀ queue ∈ queues, queue.2 ≠ []) :
    ∀ queue ∈ enqueue key value queues, queue.2 ≠ [] := by
  induction queues with
  | nil => simp [enqueue]
  | cons first rest ih =>
    obtain ⟨candidate, before⟩ := first
    have filledRest := ih fun queue member => filled queue (List.mem_cons_of_mem _ member)
    intro queue member
    rw [enqueue] at member
    split at member
    · obtain rfl | later := List.mem_cons.1 member
      · simp
      · exact filled queue (List.mem_cons_of_mem _ later)
    · obtain rfl | later := List.mem_cons.1 member
      · exact filled _ List.mem_cons_self
      · exact filledRest queue later

theorem Sound.enqueue {queues : List (κ × List ν)} (sound : Sound queues) (key : κ) (value : ν) :
    Sound (Buffer.enqueue key value queues) :=
  ⟨nodup_map_fst_enqueue key value sound.distinct, ne_nil_of_mem_enqueue sound.filled⟩

end Buffer

/-! ## What was added -/

section Added

variable {ρ : Type u} {κ : Type v} {ν : Type w} [DecidableEq κ]

theorem addedUnder_cons (key : κ) (step : ThreadStep ρ κ ν) (rest : List (ThreadStep ρ κ ν)) :
    addedUnder key (step :: rest) = (step.addedUnder key).toList ++ addedUnder key rest := by
  cases added : step.addedUnder key <;> simp [addedUnder, added]

theorem addedUnder_concat (key : κ) (steps : List (ThreadStep ρ κ ν)) (step : ThreadStep ρ κ ν) :
    addedUnder key (steps ++ [step]) = addedUnder key steps ++ (step.addedUnder key).toList := by
  rw [addedUnder, List.filterMap_append]
  exact congrArg _ ((addedUnder_cons key step []).trans (List.append_nil _))

end Added

namespace SharedBuffer

variable {ρ : Type u} {κ : Type v} {ν : Type w}

/-- The number of values that the flush under way has taken out. -/
def inHand (shared : SharedBuffer ρ κ ν) : Nat :=
  sumOf (fun queue => queue.2.length) (shared.flushing.getD [])

variable [Fintype ρ] [DecidableEq ρ]

/-! ## Adds under way -/

section Uncounted

variable {shared : SharedBuffer ρ κ ν} {producer : ρ}

/-- The push of a producer that has not pushed yet adds one to those that are not counted. -/
theorem uncounted_update_pushed (before : shared.phase producer ≠ .pushed) (buffer : Buffer κ ν) :
    uncounted { shared with
      buffer, phase := Function.update shared.phase producer .pushed } = shared.uncounted + 1 := by
  have absent : producer ∉ Finset.univ.filter fun other => shared.phase other = .pushed := by
    simpa using before
  rw [uncounted, uncounted, ← Finset.card_insert_of_notMem absent]
  congr 1
  ext other
  by_cases same : other = producer <;> simp [same, Function.update_apply]

/-- The count of a producer takes one away from those that are not counted. -/
theorem uncounted_update_idle (before : shared.phase producer = .pushed) (buffer : Buffer κ ν) :
    uncounted { shared with
      buffer, phase := Function.update shared.phase producer .idle } + 1 = shared.uncounted := by
  have present : producer ∈ Finset.univ.filter fun other => shared.phase other = .pushed := by
    simpa using before
  rw [uncounted, uncounted, ← Finset.card_erase_add_one present]
  congr 2
  ext other
  by_cases same : other = producer <;> simp [same, Function.update_apply]

theorem uncounted_update_entered (before : shared.phase producer = .idle) :
    uncounted { shared with phase := Function.update shared.phase producer .entered } =
      shared.uncounted := by
  rw [uncounted, uncounted]
  congr 1
  ext other
  by_cases same : other = producer <;> simp [same, Function.update_apply, before]

omit [DecidableEq ρ] in
theorem uncounted_eq_zero (idle : ∀ producer, shared.phase producer = .idle) :
    shared.uncounted = 0 := by
  simp [uncounted, idle]

end Uncounted

variable [DecidableEq κ]

/-! ## The books of a run -/

/-- What the steps so far have made of the buffer, the flush under way and the snapshots. -/
structure Accounts (steps : List (ThreadStep ρ κ ν)) (shared : SharedBuffer ρ κ ν) : Prop where
  sound : Buffer.Sound shared.buffer.queues
  taken_sound : ∀ snapshot ∈ shared.snapshots ++ shared.flushing.toList, Buffer.Sound snapshot
  queue_eq : ∀ key, shared.takenUnder key ++ shared.flushingUnder key ++ shared.buffer.queue key =
    addedUnder key steps
  held_eq : shared.buffer.held + shared.inHand = shared.buffer.size + shared.uncounted
  /-- A flush keeps the producers out and leaves nothing behind in the queues. -/
  exclusive : shared.flushing ≠ none →
    shared.buffer.queues = [] ∧ ∀ producer, shared.phase producer = .idle

omit [DecidableEq ρ] in
theorem accounts_nil : Accounts [] ({} : SharedBuffer ρ κ ν) := by
  constructor
  case sound => exact Buffer.sound_nil
  case taken_sound => simp
  case queue_eq => simp [takenUnder, flushingUnder, addedUnder]
  case held_eq => simp [Buffer.held, inHand, Buffer.empty, uncounted]
  case exclusive => simp

namespace Accounts

variable {steps : List (ThreadStep ρ κ ν)} {shared : SharedBuffer ρ κ ν} {producer : ρ}

omit [DecidableEq ρ] in
/-- Inside an add, no flush is under way. -/
theorem flushing_eq_none (accounts : Accounts steps shared) {phase : AddPhase}
    (inside : shared.phase producer = phase) (busy : phase ≠ .idle) : shared.flushing = none := by
  by_contra flushing
  have idle := (accounts.exclusive flushing).2 producer
  exact busy (inside.symm.trans idle)

theorem enter (accounts : Accounts steps shared) (before : shared.phase producer = .idle)
    (free : shared.flushing = none) :
    Accounts (steps ++ [.enter producer])
      { shared with phase := Function.update shared.phase producer .entered } := by
  constructor
  case sound => exact accounts.sound
  case taken_sound => exact accounts.taken_sound
  case queue_eq =>
    intro key
    rw [addedUnder_concat, ← accounts.queue_eq key]
    exact (List.append_nil _).symm
  case held_eq =>
    rw [uncounted_update_entered before]
    exact accounts.held_eq
  case exclusive => exact fun flushing => absurd free flushing

theorem push (accounts : Accounts steps shared) (before : shared.phase producer = .entered)
    (key : κ) (value : ν) :
    Accounts (steps ++ [.push producer key value])
      { shared with
        buffer := shared.buffer.push key value
        phase := Function.update shared.phase producer .pushed } := by
  have free : shared.flushing = none := accounts.flushing_eq_none before (by decide)
  constructor
  case sound => exact accounts.sound.enqueue key value
  case taken_sound => exact accounts.taken_sound
  case queue_eq =>
    intro other
    rw [addedUnder_concat, ← accounts.queue_eq other, Buffer.queue_push, ← List.append_assoc]
    by_cases same : other = key <;>
      simp [takenUnder, flushingUnder, ThreadStep.addedUnder, same]
  case held_eq =>
    have notPushed : shared.phase producer ≠ .pushed := by simp [before]
    have balance := accounts.held_eq
    have size : (shared.buffer.push key value).size = shared.buffer.size := rfl
    rw [uncounted_update_pushed notPushed, Buffer.held_push, size]
    simp only [inHand] at balance ⊢
    omega
  case exclusive => exact fun flushing => absurd free flushing

theorem count (accounts : Accounts steps shared) (before : shared.phase producer = .pushed) :
    Accounts (steps ++ [.count producer])
      { shared with
        buffer := shared.buffer.count
        phase := Function.update shared.phase producer .idle } := by
  have free : shared.flushing = none := accounts.flushing_eq_none before (by decide)
  constructor
  case sound => exact accounts.sound
  case taken_sound => exact accounts.taken_sound
  case queue_eq =>
    intro key
    rw [addedUnder_concat, ← accounts.queue_eq key]
    exact (List.append_nil _).symm
  case held_eq =>
    have fewer := uncounted_update_idle before shared.buffer.count
    have balance := accounts.held_eq
    have held : shared.buffer.count.held = shared.buffer.held := rfl
    have size : shared.buffer.count.size = shared.buffer.size + 1 := rfl
    simp only [inHand, held, size] at balance ⊢
    omega
  case exclusive => exact fun flushing => absurd free flushing

omit [DecidableEq ρ] in
/-- The first step of a flush moves the queues from the buffer to the flush. -/
theorem take (accounts : Accounts steps shared)
    (idle : ∀ producer, shared.phase producer = .idle) (free : shared.flushing = none) :
    Accounts (steps ++ [.take])
      { shared with
        buffer := shared.buffer.take.2
        flushing := some shared.buffer.take.1 } := by
  constructor
  case sound => exact Buffer.sound_nil
  case taken_sound =>
    intro snapshot member
    obtain earlier | now := List.mem_append.1 member
    · exact accounts.taken_sound snapshot (List.mem_append_left _ earlier)
    · rw [List.mem_singleton.1 now]
      exact accounts.sound
  case queue_eq =>
    intro key
    rw [addedUnder_concat, ← accounts.queue_eq key]
    simp [takenUnder, flushingUnder, free, Buffer.take, Buffer.queue, ThreadStep.addedUnder]
  case held_eq =>
    have balance := accounts.held_eq
    simp only [inHand, free, Option.getD_none, sumOf_nil, Nat.add_zero] at balance
    simp only [Buffer.held, inHand, Option.getD_some, Buffer.take, sumOf_nil, Nat.zero_add]
    exact balance
  case exclusive => exact fun _ => ⟨rfl, idle⟩

omit [DecidableEq ρ] in
/-- The second step of a flush gives the counter the value it has for an empty buffer. -/
theorem reset (accounts : Accounts steps shared) {snapshot : List (κ × List ν)}
    (flushing : shared.flushing = some snapshot) :
    Accounts (steps ++ [.reset])
      { shared with
        buffer := shared.buffer.reset
        flushing := none
        snapshots := shared.snapshots ++ [snapshot] } := by
  obtain ⟨queues, idle⟩ := accounts.exclusive (by simp [flushing])
  constructor
  case sound => exact accounts.sound
  case taken_sound => simpa [flushing] using accounts.taken_sound
  case queue_eq =>
    intro key
    rw [addedUnder_concat, ← accounts.queue_eq key]
    simp [takenUnder, flushingUnder, flushing, Buffer.reset, Buffer.queue, ThreadStep.addedUnder]
  case held_eq =>
    have none : uncounted { shared with
        buffer := shared.buffer.reset
        flushing := none
        snapshots := shared.snapshots ++ [snapshot] } = 0 := uncounted_eq_zero idle
    rw [none]
    simp [Buffer.held, inHand, Buffer.reset, queues]
  case exclusive => simp

/-- Whatever step can be taken, the books balance after it. -/
theorem step (accounts : Accounts steps shared) {step : ThreadStep ρ κ ν}
    {next : SharedBuffer ρ κ ν} (taken : shared.step? step = some next) :
    Accounts (steps ++ [step]) next := by
  cases step with
  | enter producer =>
    obtain ⟨⟨before, free⟩, made⟩ := Option.ite_none_right_eq_some.1 taken
    cases made
    exact accounts.enter before (Option.isNone_iff_eq_none.1 free)
  | push producer key value =>
    obtain ⟨before, made⟩ := Option.ite_none_right_eq_some.1 taken
    cases made
    exact accounts.push before key value
  | count producer =>
    obtain ⟨before, made⟩ := Option.ite_none_right_eq_some.1 taken
    cases made
    exact accounts.count before
  | take =>
    obtain ⟨⟨idle, free⟩, made⟩ := Option.ite_none_right_eq_some.1 taken
    cases made
    exact accounts.take idle (Option.isNone_iff_eq_none.1 free)
  | reset =>
    obtain ⟨snapshot, flushing, made⟩ := Option.map_eq_some_iff.1 taken
    cases made
    exact accounts.reset flushing

theorem run (accounts : Accounts steps shared) {later : List (ThreadStep ρ κ ν)}
    {last : SharedBuffer ρ κ ν} (reached : shared.run? later = some last) :
    Accounts (steps ++ later) last := by
  induction later generalizing steps shared with
  | nil =>
    obtain rfl : shared = last := Option.some.inj reached
    rw [List.append_nil]
    exact accounts
  | cons step rest ih =>
    obtain ⟨next, taken, rest⟩ := Option.bind_eq_some_iff.1 reached
    have after := ih (accounts.step taken) rest
    rw [List.append_assoc] at after
    exact after

end Accounts

/-! ## Since a flush -/

section Since

variable {shared last : SharedBuffer ρ κ ν}

theorem run?_append (earlier later : List (ThreadStep ρ κ ν)) :
    shared.run? (earlier ++ later) = (shared.run? earlier).bind fun middle => middle.run? later := by
  induction earlier generalizing shared with
  | nil => rfl
  | cons step rest ih => simp only [List.cons_append, run?, ih, Option.bind_assoc]

/-- A step lets a queue grow at its end, or takes all of it away. -/
theorem queue_suffix_of_step? {step : ThreadStep ρ κ ν} (taken : shared.step? step = some last)
    (key : κ) :
    last.buffer.queue key <:+ shared.buffer.queue key ++ (step.addedUnder key).toList := by
  cases step with
  | enter producer =>
    obtain ⟨-, made⟩ := Option.ite_none_right_eq_some.1 taken
    cases made
    simp [ThreadStep.addedUnder]
  | push producer other value =>
    obtain ⟨-, made⟩ := Option.ite_none_right_eq_some.1 taken
    cases made
    rw [Buffer.queue_push]
    by_cases same : key = other <;> simp [ThreadStep.addedUnder, same]
  | count producer =>
    obtain ⟨-, made⟩ := Option.ite_none_right_eq_some.1 taken
    cases made
    simp [ThreadStep.addedUnder, Buffer.count, Buffer.queue]
  | take =>
    obtain ⟨-, made⟩ := Option.ite_none_right_eq_some.1 taken
    cases made
    exact List.nil_suffix
  | reset =>
    obtain ⟨snapshot, -, made⟩ := Option.map_eq_some_iff.1 taken
    cases made
    simp [ThreadStep.addedUnder, Buffer.reset, Buffer.queue]

theorem queue_suffix_of_run? {steps : List (ThreadStep ρ κ ν)}
    (reached : shared.run? steps = some last) (key : κ) :
    last.buffer.queue key <:+ shared.buffer.queue key ++ addedUnder key steps := by
  induction steps generalizing shared with
  | nil =>
    obtain rfl : shared = last := Option.some.inj reached
    simp [addedUnder]
  | cons step rest ih =>
    obtain ⟨next, taken, reachedRest⟩ := Option.bind_eq_some_iff.1 reached
    rw [addedUnder_cons, ← List.append_assoc]
    obtain ⟨front, first⟩ := queue_suffix_of_step? taken key
    refine (ih reachedRest).trans ⟨front, ?_⟩
    rw [← List.append_assoc, first]

/-- A step of a flush leaves nothing in the queues. -/
theorem queues_eq_nil_of_flushes {steps : List (ThreadStep ρ κ ν)} (accounts : Accounts steps shared)
    {step : ThreadStep ρ κ ν} (flushes : step = .take ∨ step = .reset)
    (taken : shared.step? step = some last) : last.buffer.queues = [] := by
  obtain rfl | rfl := flushes
  · obtain ⟨-, made⟩ := Option.ite_none_right_eq_some.1 taken
    cases made
    rfl
  · obtain ⟨snapshot, flushing, made⟩ := Option.map_eq_some_iff.1 taken
    cases made
    exact (accounts.exclusive (by simp [flushing])).1

/-- After a step of a flush, the buffer holds what was added since, or the later part of it. -/
theorem queue_suffix_of_flushes {earlier later : List (ThreadStep ρ κ ν)} {step : ThreadStep ρ κ ν}
    (flushes : step = .take ∨ step = .reset)
    (reached : ({} : SharedBuffer ρ κ ν).run? (earlier ++ step :: later) = some last) (key : κ) :
    last.buffer.queue key <:+ addedUnder key later := by
  rw [run?_append] at reached
  obtain ⟨middle, reachedMiddle, flushing⟩ := Option.bind_eq_some_iff.1 reached
  obtain ⟨emptied, taken, rest⟩ := Option.bind_eq_some_iff.1 flushing
  have accounts : Accounts earlier middle := accounts_nil.run reachedMiddle
  have queues := queues_eq_nil_of_flushes accounts flushes taken
  have empty : emptied.buffer.queue key = [] := by simp [Buffer.queue, queues]
  have suffix := queue_suffix_of_run? rest key
  rw [empty] at suffix
  exact suffix

end Since

/-- Operations that follow one another without overlap are a run of their steps. -/
theorem run?_operations (operations : List (BufferOperation ρ κ ν)) (shared : SharedBuffer ρ κ ν)
    (idle : ∀ producer, shared.phase producer = .idle) (free : shared.flushing = none) :
    ∃ last, shared.run? (operations.flatMap BufferOperation.steps) = some last ∧
      last.buffer = operations.foldl BufferOperation.apply shared.buffer := by
  induction operations generalizing shared with
  | nil => exact ⟨shared, rfl, rfl⟩
  | cons operation rest ih =>
    obtain ⟨next, taken, buffer, still, unlocked⟩ : ∃ next,
        shared.run? operation.steps = some next ∧ next.buffer = operation.apply shared.buffer ∧
          (∀ producer, next.phase producer = .idle) ∧ next.flushing = none := by
      cases operation with
      | add producer key value =>
        refine ⟨{ shared with buffer := shared.buffer.add key value }, ?_, rfl, idle, free⟩
        have before : Function.update shared.phase producer .idle = shared.phase :=
          Function.update_eq_self_iff.2 (idle producer).symm
        simp [BufferOperation.steps, run?, step?, idle, free, Buffer.add, before]
      | flush =>
        refine ⟨{ shared with
          buffer := shared.buffer.flush.2
          snapshots := shared.snapshots ++ [shared.buffer.flush.1] }, ?_, rfl, idle, free⟩
        simp [BufferOperation.steps, run?, step?, idle, free, Buffer.flush]
    obtain ⟨last, reached, applied⟩ := ih next still unlocked
    refine ⟨last, ?_, ?_⟩
    · rw [List.flatMap_cons, run?_append, taken]
      exact reached
    · rw [applied, buffer]
      rfl

/-- In every state that producers and a flusher can reach, in whatever order they take their
steps: the snapshots of a key, then what a flush under way took from its queue, and then its
queue hold what was added under the key, in that order; nothing that was taken out has an
empty queue, or two queues of one key; after a flush the buffer holds only what was added
since; and the values that are buffered or in the hands of a flush are the counted ones and
those of the adds that have pushed and not yet counted.

While no flush is under way, the counter therefore never exceeds the buffered values, and
equals them while no add is under way either; from there, operations that do not overlap do
what they do to a buffer that is not shared. Inside a flush no add is under way, nothing is
buffered, and the counter still counts what the flush has taken. -/
theorem flush_is_atomic (steps : List (ThreadStep ρ κ ν)) (shared : SharedBuffer ρ κ ν)
    (reached : ({} : SharedBuffer ρ κ ν).run? steps = some shared) :
    (∀ key, shared.takenUnder key ++ shared.flushingUnder key ++ shared.buffer.queue key =
        addedUnder key steps) ∧
      (∀ snapshot ∈ shared.snapshots ++ shared.flushing.toList,
        (snapshot.map Prod.fst).Nodup ∧ ∀ queue ∈ snapshot, queue.2 ≠ []) ∧
      (∀ earlier step later, step = .take ∨ step = .reset → steps = earlier ++ step :: later →
        ∀ key, shared.buffer.queue key <:+ addedUnder key later) ∧
      shared.buffer.held + shared.inHand = shared.buffer.size + shared.uncounted ∧
      (shared.flushing = none →
        shared.buffer.held = shared.buffer.size + shared.uncounted ∧
        shared.buffer.size ≤ shared.buffer.held ∧
        ((∀ producer, shared.phase producer = .idle) →
          shared.buffer.size = shared.buffer.held ∧
          ∀ operations : List (BufferOperation ρ κ ν), ∃ last,
            shared.run? (operations.flatMap BufferOperation.steps) = some last ∧
              last.buffer = operations.foldl BufferOperation.apply shared.buffer)) ∧
      (shared.flushing ≠ none →
        (∀ producer, shared.phase producer = .idle) ∧ shared.buffer.held = 0 ∧
          shared.buffer.size = shared.inHand) := by
  have accounts : Accounts steps shared := accounts_nil.run reached
  have balance := accounts.held_eq
  refine ⟨accounts.queue_eq, ?_, ?_, balance, ?_, ?_⟩
  · intro snapshot member
    have sound := accounts.taken_sound snapshot member
    exact ⟨sound.distinct, sound.filled⟩
  · intro earlier step later flushes split
    subst split
    exact queue_suffix_of_flushes flushes reached
  · intro free
    have nothing : shared.inHand = 0 := by simp [inHand, free]
    have law : shared.buffer.held = shared.buffer.size + shared.uncounted := by omega
    refine ⟨law, by omega, ?_⟩
    intro idle
    rw [uncounted_eq_zero idle] at law
    exact ⟨law.symm, fun operations => run?_operations operations shared idle free⟩
  · intro flushing
    obtain ⟨queues, idle⟩ := accounts.exclusive flushing
    have held : shared.buffer.held = 0 := by simp [Buffer.held, queues]
    have none := uncounted_eq_zero idle
    exact ⟨idle, held, by omega⟩

/-- Two adds overlap before a flush, and a third one stands between its push and its count. -/
theorem flush_is_atomic_mid_add :
    let steps : List (ThreadStep (Fin 2) String Nat) :=
      [.enter 0, .enter 1, .push 1 "web" 10, .push 0 "web" 20, .count 0, .count 1, .take, .reset,
        .enter 0, .push 0 "web" 30]
    ∃ shared, ({} : SharedBuffer (Fin 2) String Nat).run? steps = some shared ∧
      shared.takenUnder "web" = [10, 20] ∧ shared.buffer.queue "web" = [30] ∧
      shared.buffer.size = 0 ∧ shared.uncounted = 1 ∧ shared.flushing = none ∧
      shared.takenUnder "web" ++ shared.flushingUnder "web" ++ shared.buffer.queue "web" =
        addedUnder "web" steps ∧
      shared.buffer.held = shared.buffer.size + shared.uncounted := by
  intro steps
  obtain ⟨shared, reached⟩ : ∃ shared, SharedBuffer.run? {} steps = some shared := ⟨_, rfl⟩
  obtain ⟨queues, -, -, -, between, -⟩ := flush_is_atomic steps shared reached
  have free : shared.flushing = none := by
    cases reached
    rfl
  refine ⟨shared, reached, ?_, ?_, ?_, ?_, free, queues "web", (between free).1⟩
  all_goals
    cases reached
    rfl

/-- Inside a flush of one value nothing is buffered and no add is under way, and the counter
still says one. -/
theorem size_exceeds_held_mid_flush :
    ∃ shared, ({} : SharedBuffer (Fin 1) String Nat).run?
        [.enter 0, .push 0 "web" 10, .count 0, .take] = some shared ∧
      (∀ producer, shared.phase producer = .idle) ∧ shared.uncounted = 0 ∧
      shared.buffer.held = 0 ∧ shared.buffer.size = 1 ∧
      shared.buffer.held ≠ shared.buffer.size + shared.uncounted := by
  refine ⟨_, rfl, ?_, rfl, rfl, rfl, by decide⟩
  decide

end SharedBuffer

end Alerting
