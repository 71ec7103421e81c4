import Alerting.Emitter.Crew
import Alerting.Proofs.Grouper
import Mathlib.Data.List.Perm.Basic

/-!
# The books of a crew

What a crew accepted and took, and what its workers have in their hands and handed over,
balances after every step of any worker, whatever the final sink does. Once all workers are
gone, nothing is left of what was accepted.
-/

namespace Alerting

namespace Worker

section GroupInHands

variable (group : AlertGroup) (emitted : Nat)

@[simp] theorem group?_free : group? ⟨.free, emitted⟩ = none := rfl

@[simp] theorem group?_busy : group? ⟨.busy group, emitted⟩ = some group := rfl

@[simp] theorem group?_gone : group? ⟨.gone, emitted⟩ = none := rfl

end GroupInHands

/-- An upper bound for the steps of a worker that takes nothing more. -/
def stepsLeft (worker : Worker) : Nat :=
  match worker.phase with
  | .busy _ => 2
  | .free => 1
  | .gone => 0

end Worker

namespace EmitterPool

theorem take?_eq_some {pool next : EmitterPool} {group : AlertGroup} :
    pool.take? = some (group, next) ↔
      ∃ rest, pool.queue = group :: rest ∧ next = { pool with queue := rest } := by
  rw [take?]
  cases pool.queue <;> simp [eq_comm, and_assoc]

/-- Submitting groups to a pool hands none of them over. -/
theorem handled_submitAll (groups : List AlertGroup) (pool : EmitterPool) :
    (submitAll submit groups pool).2.handled = pool.handled := by
  induction groups generalizing pool with
  | nil => rfl
  | cons group rest ih =>
    have same : (submit group pool).2.handled = pool.handled := by
      rw [submit]
      split
      · rfl
      · split <;> rfl
    exact (ih _).trans same

variable {σ : Type} (pool : EmitterPool) (sink : Sink σ) (state : σ)

theorem emitted_deliver (group : AlertGroup) :
    (pool.deliver sink group state).1.emitted =
      pool.emitted + (sink group state).1.isAccepted.toNat := by
  simp only [emitted, deliver, List.filter_append, List.length_append]
  cases taken : (sink group state).1.isAccepted <;> simp [taken]

theorem drain_of_nil (queue : pool.queue = []) : pool.drain sink state = (pool, state) := by
  rw [drain, queue]
  rfl

/-- To drain a pool is to take and deliver the oldest group and to drain what is left. -/
theorem drain_of_cons {group : AlertGroup} {rest : List AlertGroup}
    (queue : pool.queue = group :: rest) :
    pool.drain sink state =
      let delivered := deliver sink group { pool with queue := rest } state
      delivered.1.drain sink delivered.2 := by
  have next : pool.take? = some (group, { pool with queue := rest }) :=
    take?_eq_some.2 ⟨rest, queue, rfl⟩
  rw [drain, queue, List.length_cons, work, next]
  rfl

@[simp] theorem queue_drain : (pool.drain sink state).1.queue = [] := by
  induction queue : pool.queue generalizing pool state with
  | nil => rw [drain_of_nil pool sink state queue, queue]
  | cons group rest ih =>
    rw [drain_of_cons pool sink state queue]
    exact ih _ _ rfl

end EmitterPool

namespace Crew

variable {σ : Type}

/-! ## The books of a crew -/

/-- The books of a crew balance. -/
structure Balanced (sink : Sink σ) (start : σ) (crew : Crew σ) : Prop where
  length_eq : crew.workers.length = crew.pool.workers
  accepted_eq : crew.accepted = crew.taken ++ crew.pool.queue
  taken_perm : crew.taken.Perm (crew.handedOver ++ crew.inHands)
  bounded : crew.pool.queue.length ≤ crew.pool.capacity
  /-- The final sink was given one group after the other. -/
  handled_eq : submitAll sink crew.handedOver start = (crew.pool.handled, crew.sinkState)
  emitted_eq : sumOf Worker.emitted crew.workers = crew.pool.emitted
  /-- Nobody leaves early. -/
  left : ∀ worker ∈ crew.workers, worker.phase = .gone →
    crew.isOpen = false ∧ crew.pool.queue = []

theorem balanced_ofPool {pool : EmitterPool} (fresh : pool.queue = [] ∧ pool.handled = [])
    (sink : Sink σ) (start : σ) : (ofPool pool start).Balanced sink start := by
  rcases fresh with ⟨empty, idle⟩
  have free (worker : Worker) (member : worker ∈ (ofPool pool start).workers) : worker = {} :=
    List.eq_of_mem_replicate member
  constructor
  case length_eq => exact List.length_replicate
  case accepted_eq => simp [ofPool, empty]
  case taken_perm => simp [ofPool, handedOver, inHands, idle, Worker.group?]
  case bounded => simp [ofPool, empty]
  case handled_eq => simp [ofPool, handedOver, idle, submitAll]
  case emitted_eq =>
    rw [sumOf_eq_zero]
    · simp [ofPool, EmitterPool.emitted, idle]
    · intro worker member
      rw [free worker member]
  case left =>
    intro worker member gone
    rw [free worker member] at gone
    cases gone

theorem submitAll_concat (sink : Sink σ) (groups : List AlertGroup) (group : AlertGroup)
    (state : σ) :
    submitAll sink (groups ++ [group]) state =
      ((submitAll sink groups state).1 ++
          [(group, (sink group (submitAll sink groups state).2).1)],
        (sink group (submitAll sink groups state).2).2) := by
  induction groups generalizing state with
  | nil => rfl
  | cons first rest ih => simp only [List.cons_append, submitAll, ih]

/-- An offer is accepted if the pool has workers and its queue has room, and a refused one
changes nothing. -/
theorem offer_cases (crew : Crew σ) (group : AlertGroup) :
    (crew.pool.workers ≠ 0 ∧ crew.pool.queue.length < crew.pool.capacity ∧
      crew.offer group = (.accepted, { crew with
        pool := { crew.pool with queue := crew.pool.queue ++ [group] }
        accepted := crew.accepted ++ [group] })) ∨
    ((crew.pool.workers = 0 ∨ crew.pool.capacity ≤ crew.pool.queue.length) ∧
      ∃ error, crew.offer group = (.refused error, crew)) := by
  by_cases none : crew.pool.workers = 0
  · exact .inr ⟨.inl none, .closed, by simp [offer, EmitterPool.submit, none, Submission.isAccepted]⟩
  · by_cases full : crew.pool.capacity ≤ crew.pool.queue.length
    · exact .inr ⟨.inr full, .full,
        by simp [offer, EmitterPool.submit, none, full, Submission.isAccepted]⟩
    · exact .inl ⟨none, Nat.lt_of_not_le full,
        by simp [offer, EmitterPool.submit, none, full, Submission.isAccepted]⟩

namespace Balanced

variable {sink : Sink σ} {start : σ} {crew next : Crew σ}

/-- An open queue takes or refuses a group. -/
theorem offer (balanced : crew.Balanced sink start) (opened : crew.isOpen = true)
    (group : AlertGroup) : (crew.offer group).2.Balanced sink start := by
  rcases crew.offer_cases group with ⟨-, room, accepted⟩ | ⟨-, error, refused⟩
  · rw [accepted]
    constructor
    case length_eq => exact balanced.length_eq
    case accepted_eq => simp [balanced.accepted_eq]
    case taken_perm => exact balanced.taken_perm
    case bounded =>
      simp only [List.length_append, List.length_singleton]
      omega
    case handled_eq => exact balanced.handled_eq
    case emitted_eq => exact balanced.emitted_eq
    case left =>
      intro worker member gone
      rw [(balanced.left worker member gone).1] at opened
      cases opened
  · rw [refused]
    exact balanced

theorem close (balanced : crew.Balanced sink start) : crew.close.Balanced sink start where
  length_eq := balanced.length_eq
  accepted_eq := balanced.accepted_eq
  taken_perm := balanced.taken_perm
  bounded := balanced.bounded
  handled_eq := balanced.handled_eq
  emitted_eq := balanced.emitted_eq
  left worker member gone := ⟨rfl, (balanced.left worker member gone).2⟩

section Step

variable {before after : List Worker} {emitted : Nat} {group : AlertGroup}

/-- The other workers are those that were there before. -/
theorem left_of_replaced (balanced : crew.Balanced sink start) {old new : Worker}
    (workers : crew.workers = before ++ old :: after) {worker : Worker}
    (member : worker ∈ before ++ new :: after) (gone : worker.phase = .gone)
    (present : new.phase ≠ .gone) : crew.isOpen = false ∧ crew.pool.queue = [] := by
  apply balanced.left worker _ gone
  rw [workers]
  simp only [List.mem_append, List.mem_cons] at member ⊢
  rcases member with earlier | rfl | later
  · exact .inl earlier
  · exact absurd gone present
  · exact .inr (.inr later)

theorem take (balanced : crew.Balanced sink start)
    (worker : crew.workers = before ++ ⟨.free, emitted⟩ :: after) {pool : EmitterPool}
    (taken : crew.pool.take? = some (group, pool)) :
    Balanced sink start { crew with
      pool
      workers := before ++ ⟨.busy group, emitted⟩ :: after
      taken := crew.taken ++ [group] } := by
  rcases EmitterPool.take?_eq_some.1 taken with ⟨rest, queue, rfl⟩
  constructor
  case length_eq => simpa [worker] using balanced.length_eq
  case accepted_eq => simp [balanced.accepted_eq, queue]
  case taken_perm =>
    have perm := (balanced.taken_perm.append_right [group]).trans
      (List.perm_append_singleton group _)
    refine perm.trans ?_
    simp only [inHands, worker, List.filterMap_append, List.filterMap_cons, Worker.group?_free,
      Worker.group?_busy, ← List.append_assoc]
    exact List.perm_middle.symm
  case bounded =>
    have bounded := balanced.bounded
    rw [queue, List.length_cons] at bounded
    exact Nat.le_of_succ_le bounded
  case handled_eq => exact balanced.handled_eq
  case emitted_eq =>
    have sum := balanced.emitted_eq
    simp only [worker, sumOf_append, sumOf_cons] at sum ⊢
    exact sum
  case left =>
    intro other member gone
    have empty := (balanced.left_of_replaced worker member gone (by simp)).2
    rw [queue] at empty
    cases empty

theorem deliver (balanced : crew.Balanced sink start)
    (worker : crew.workers = before ++ ⟨.busy group, emitted⟩ :: after) :
    Balanced sink start { crew with
      pool := (crew.pool.deliver sink group crew.sinkState).1
      sinkState := (crew.pool.deliver sink group crew.sinkState).2
      workers := before ++
        ⟨.free, emitted + (sink group crew.sinkState).1.isAccepted.toNat⟩ :: after } := by
  constructor
  case length_eq => simpa [worker, EmitterPool.deliver] using balanced.length_eq
  case accepted_eq => exact balanced.accepted_eq
  case taken_perm =>
    refine balanced.taken_perm.trans ?_
    simp only [handedOver, inHands, worker, EmitterPool.deliver, List.map_append, List.map_cons,
      List.map_nil, List.filterMap_append, List.filterMap_cons, Worker.group?_free,
      Worker.group?_busy, List.append_assoc, List.cons_append, List.nil_append]
    exact List.perm_middle.append_left _
  case bounded => exact balanced.bounded
  case handled_eq =>
    have handled := balanced.handled_eq
    simp only [handedOver, EmitterPool.deliver, List.map_append, List.map_cons, List.map_nil]
      at handled ⊢
    rw [submitAll_concat, handled]
  case emitted_eq =>
    have sum := balanced.emitted_eq
    simp only [worker, sumOf_append, sumOf_cons] at sum ⊢
    rw [EmitterPool.emitted_deliver, ← sum]
    omega
  case left =>
    intro other member gone
    exact balanced.left_of_replaced worker member gone (by simp)

theorem leave (balanced : crew.Balanced sink start)
    (worker : crew.workers = before ++ ⟨.free, emitted⟩ :: after)
    (closed : crew.isOpen = false) (empty : crew.pool.queue = []) :
    Balanced sink start { crew with workers := before ++ ⟨.gone, emitted⟩ :: after } where
  length_eq := by simpa [worker] using balanced.length_eq
  accepted_eq := balanced.accepted_eq
  taken_perm := by
    refine balanced.taken_perm.trans (.of_eq ?_)
    simp [handedOver, inHands, worker, List.filterMap_cons]
  bounded := balanced.bounded
  handled_eq := balanced.handled_eq
  emitted_eq := by
    have sum := balanced.emitted_eq
    simp only [worker, sumOf_append, sumOf_cons] at sum ⊢
    exact sum
  left _ _ _ := ⟨closed, empty⟩

end Step

/-- Whatever step a worker takes, the books balance after it. -/
theorem step (balanced : crew.Balanced sink start) (step : crew.Step sink next) :
    next.Balanced sink start := by
  cases step with
  | take worker next => exact balanced.take worker next
  | deliver worker => exact balanced.deliver worker
  | leave worker closed empty => exact balanced.leave worker closed empty

/-- All workers are gone only from a queue that is closed and empty. -/
theorem closed_of_isOver (balanced : crew.Balanced sink start) (some : crew.pool.workers ≠ 0)
    (isOver : crew.IsOver) : crew.isOpen = false ∧ crew.pool.queue = [] := by
  rw [← balanced.length_eq] at some
  rcases List.exists_mem_of_length_pos (Nat.pos_of_ne_zero some) with ⟨worker, member⟩
  exact balanced.left worker member (isOver worker member)

/-- Once all workers are gone, all that was accepted was handed over. -/
theorem perm_of_isOver (balanced : crew.Balanced sink start) (some : crew.pool.workers ≠ 0)
    (isOver : crew.IsOver) : crew.accepted.Perm crew.handedOver := by
  have hands : crew.inHands = [] := by
    refine List.filterMap_eq_nil_iff.2 fun worker member => ?_
    rw [Worker.group?, isOver worker member]
  have perm := balanced.taken_perm
  rw [hands, List.append_nil] at perm
  rw [balanced.accepted_eq, (balanced.closed_of_isOver some isOver).2, List.append_nil]
  exact perm

end Balanced

/-! ## Draining -/

/-- An upper bound for the steps that the workers can take before the next submission. -/
def stepsLeft (crew : Crew σ) : Nat :=
  3 * crew.pool.queue.length + sumOf Worker.stepsLeft crew.workers

variable {sink : Sink σ} {start : σ} {crew next : Crew σ}

/-- Every step of a worker brings the end closer. -/
theorem Step.stepsLeft_lt (step : crew.Step sink next) : next.stepsLeft < crew.stepsLeft := by
  cases step with
  | take worker next =>
    rcases EmitterPool.take?_eq_some.1 next with ⟨rest, queue, rfl⟩
    simp only [stepsLeft, worker, queue, sumOf_append, sumOf_cons, Worker.stepsLeft,
      List.length_cons]
    omega
  | deliver worker =>
    simp only [stepsLeft, worker, sumOf_append, sumOf_cons, Worker.stepsLeft, EmitterPool.deliver]
    omega
  | leave worker closed empty =>
    simp only [stepsLeft, worker, sumOf_append, sumOf_cons, Worker.stepsLeft]
    omega

/-- The steps of workers change neither the size of the pool nor what it accepted. -/
theorem Step.frame (step : crew.Step sink next) :
    next.pool.workers = crew.pool.workers ∧ next.pool.capacity = crew.pool.capacity ∧
      next.isOpen = crew.isOpen ∧ next.accepted = crew.accepted := by
  cases step with
  | take worker next =>
    rcases EmitterPool.take?_eq_some.1 next with ⟨rest, -, rfl⟩
    exact ⟨rfl, rfl, rfl, rfl⟩
  | deliver worker => exact ⟨rfl, rfl, rfl, rfl⟩
  | leave worker closed empty => exact ⟨rfl, rfl, rfl, rfl⟩

/-- While a worker of a closed queue is not gone, one of them can take a step. -/
theorem exists_step_of_not_isOver (sink : Sink σ) (closed : crew.isOpen = false)
    (working : ¬ crew.IsOver) : ∃ next, crew.Step sink next := by
  obtain ⟨worker, member, present⟩ : ∃ worker ∈ crew.workers, worker.phase ≠ .gone := by
    simpa [IsOver] using working
  rcases List.append_of_mem member with ⟨before, after, split⟩
  rcases worker with ⟨phase, emitted⟩
  cases phase with
  | gone => exact absurd rfl present
  | busy group => exact ⟨_, .deliver split⟩
  | free =>
    cases queue : crew.pool.queue with
    | nil => exact ⟨_, .leave split closed queue⟩
    | cons group rest =>
      exact ⟨_, .take split (EmitterPool.take?_eq_some.2 ⟨rest, queue, rfl⟩)⟩

/-- The workers of a closed queue can all leave, whatever they are doing. -/
theorem exists_isOver (sink : Sink σ) (crew : Crew σ) (closed : crew.isOpen = false) :
    ∃ last, Relation.ReflTransGen (Step sink) crew last ∧ last.IsOver := by
  induction left : crew.stepsLeft using Nat.strongRecOn generalizing crew with
  | ind count ih =>
    by_cases isOver : crew.IsOver
    · exact ⟨crew, .refl, isOver⟩
    · rcases exists_step_of_not_isOver sink closed isOver with ⟨next, step⟩
      have closer : next.stepsLeft < count := left ▸ step.stepsLeft_lt
      rcases ih _ closer next (step.frame.2.2.1.trans closed) rfl with ⟨last, steps, isOver⟩
      exact ⟨last, .head step steps, isOver⟩

/-- One worker can do alone what the pool does when it works, up to any number of groups. -/
theorem reaches_worked (sink : Sink σ) (count : Nat) (crew : Crew σ) (emitted : Nat)
    {others : List Worker} (workers : crew.workers = ⟨.free, emitted⟩ :: others) :
    let worked := crew.pool.work sink count crew.sinkState
    ∃ emitted' taken, Relation.ReflTransGen (Step sink) crew
      { crew with
        pool := worked.1
        workers := ⟨.free, emitted'⟩ :: others
        sinkState := worked.2
        taken } := by
  rcases crew with ⟨pool, _, state, isOpen, accepted, taken⟩
  subst workers
  induction count generalizing pool emitted state taken with
  | zero => exact ⟨emitted, taken, .refl⟩
  | succ count ih =>
    cases next : pool.take? with
    | none =>
      simp only [EmitterPool.work, next]
      exact ⟨emitted, taken, .refl⟩
    | some entry =>
      obtain ⟨group, rest⟩ := entry
      simp only [EmitterPool.work, next]
      let delivered := rest.deliver sink group state
      rcases ih (emitted + (sink group state).1.isAccepted.toNat) delivered.1 delivered.2
        (taken ++ [group]) with ⟨emitted', taken', steps⟩
      exact ⟨emitted', taken', .head (.take (List.nil_append _).symm next)
        (.head (.deliver (List.nil_append _).symm) steps)⟩

/-- One worker can empty the queue alone, and hands over what the pool does when it drains. -/
theorem reaches_drained (sink : Sink σ) (crew : Crew σ) (emitted : Nat) {others : List Worker}
    (workers : crew.workers = ⟨.free, emitted⟩ :: others) :
    let drained := crew.pool.drain sink crew.sinkState
    ∃ emitted' taken, Relation.ReflTransGen (Step sink) crew
      { crew with
        pool := drained.1
        workers := ⟨.free, emitted'⟩ :: others
        sinkState := drained.2
        taken } :=
  reaches_worked sink crew.pool.queue.length crew emitted workers

/-- Free workers of a closed and empty queue can leave one after the other. -/
theorem reaches_left (sink : Sink σ) (before after : List Worker) {crew : Crew σ}
    (closed : crew.isOpen = false) (empty : crew.pool.queue = [])
    (split : crew.workers = before ++ after) (free : ∀ worker ∈ after, worker.phase = .free) :
    Relation.ReflTransGen (Step sink) crew
      { crew with workers := before ++ after.map fun worker => ⟨.gone, worker.emitted⟩ } := by
  induction after generalizing before crew with
  | nil => exact split ▸ .refl
  | cons worker rest ih =>
    obtain ⟨emitted, rfl⟩ : ∃ emitted, worker = ⟨.free, emitted⟩ :=
      ⟨worker.emitted, congrArg (Worker.mk · worker.emitted) (free worker List.mem_cons_self)⟩
    let next : Crew σ := { crew with workers := before ++ ⟨.gone, emitted⟩ :: rest }
    have others : ∀ worker ∈ rest, worker.phase = .free :=
      fun other member => free other (List.mem_cons_of_mem _ member)
    have more := @ih (before ++ [⟨.gone, emitted⟩]) next closed empty (by simp [next]) others
    rw [List.append_assoc] at more
    exact .head (.leave split closed empty) more

theorem reaches_over (sink : Sink σ) (crew : Crew σ) (closed : crew.isOpen = false)
    (empty : crew.pool.queue = []) (free : ∀ worker ∈ crew.workers, worker.phase = .free) :
    ∃ workers, Relation.ReflTransGen (Step sink) crew { crew with workers } ∧
      ∀ worker ∈ workers, worker.phase = .gone :=
  ⟨_, reaches_left sink [] crew.workers closed empty rfl free, by simp⟩

/-- Free workers of a closed queue can empty it, in the order in which the pool drains, and
leave. -/
theorem exists_drained (sink : Sink σ) (crew : Crew σ) (closed : crew.isOpen = false) {count : Nat}
    (workers : crew.workers = List.replicate (count + 1) {}) :
    let drained := crew.pool.drain sink crew.sinkState
    ∃ last, Relation.ReflTransGen (Step sink) crew last ∧ last.IsOver ∧
      last.pool = drained.1 ∧ last.sinkState = drained.2 := by
  rcases crew.reaches_drained sink 0 workers with ⟨emitted, taken, emptied⟩
  let drained : Crew σ := { crew with
    pool := (crew.pool.drain sink crew.sinkState).1
    workers := ⟨.free, emitted⟩ :: List.replicate count {}
    sinkState := (crew.pool.drain sink crew.sinkState).2
    taken }
  have free : ∀ worker ∈ drained.workers, worker.phase = .free := by
    intro worker member
    rcases List.mem_cons.1 member with rfl | other
    · rfl
    · rw [List.eq_of_mem_replicate other]
  have empty : drained.pool.queue = [] := EmitterPool.queue_drain _ _ _
  rcases drained.reaches_over sink closed empty free with ⟨gone, left, isOver⟩
  exact ⟨_, emptied.trans left, isOver, rfl, rfl⟩

end Crew

end Alerting
