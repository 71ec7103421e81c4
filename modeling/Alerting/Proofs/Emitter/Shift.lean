import Alerting.Proofs.Emitter.Crew

/-!
# The books of a shift

Whatever the order of the steps in a shift, and whatever the final sink does with each group:
the accepted groups are taken in the order of their acceptance and handed over once each, a
refused one never is, and what waiting for the workers reports is the number of groups that the
final sink took. Which groups are accepted, taken and handed over, and who is at work, does not
depend on the sink.
-/

namespace Alerting

theorem Worker.join?_eq_some_iff {workers : List Worker} {count : Nat} :
    join? workers = some count ↔
      (∀ worker ∈ workers, worker.phase = .gone) ∧ count = sumOf Worker.emitted workers := by
  induction workers generalizing count with
  | nil => simp [join?, eq_comm]
  | cons worker rest ih =>
    by_cases gone : worker.phase = .gone
    · rw [join?, if_pos gone, Option.map_eq_some_iff]
      simp only [ih, List.forall_mem_cons, gone, true_and, sumOf_cons]
      constructor
      · rintro ⟨others, ⟨allGone, rfl⟩, rfl⟩
        exact ⟨allGone, rfl⟩
      · rintro ⟨allGone, rfl⟩
        exact ⟨_, ⟨allGone, rfl⟩, rfl⟩
    · simp [join?, gone]

namespace Shift

variable {σ τ : Type}

/-! ## The books of a shift -/

/-- The books of a shift balance: those of its crew do, and the crew accepted what the
submitters were told. -/
structure Balanced (sink : Sink σ) (pool : EmitterPool) (start : σ) (shift : Shift σ) : Prop where
  crew : shift.crew.Balanced sink start
  accepted_eq : shift.crew.accepted = shift.accepted
  workers_eq : shift.crew.pool.workers = pool.workers
  capacity_eq : shift.crew.pool.capacity = pool.capacity

theorem balanced_start {pool : EmitterPool} (fresh : pool.queue = [] ∧ pool.handled = [])
    (sink : Sink σ) (state : σ) : (start pool state).Balanced sink pool state :=
  ⟨Crew.balanced_ofPool fresh sink state, rfl, rfl, rfl⟩

namespace Balanced

variable {sink : Sink σ} {pool : EmitterPool} {state : σ} {shift next : Shift σ}

theorem offer (balanced : shift.Balanced sink pool state) (opened : shift.crew.isOpen = true)
    (group : AlertGroup) :
    Balanced sink pool state
      { crew := (shift.crew.offer group).2
        offers := shift.offers ++ [(group, (shift.crew.offer group).1)] } := by
  have crew := balanced.crew.offer opened group
  rcases shift.crew.offer_cases group with ⟨-, -, accepts⟩ | ⟨-, error, refuses⟩
  · rw [accepts] at crew ⊢
    exact ⟨crew, by simp [accepted, balanced.accepted_eq, Submission.isAccepted],
      balanced.workers_eq, balanced.capacity_eq⟩
  · rw [refuses] at crew ⊢
    exact ⟨crew, by simp [accepted, balanced.accepted_eq, Submission.isAccepted],
      balanced.workers_eq, balanced.capacity_eq⟩

/-- Whatever step is taken, the books balance after it. -/
theorem step (balanced : shift.Balanced sink pool state) (step : shift.Step sink next) :
    next.Balanced sink pool state := by
  cases step with
  | offer group opened => exact balanced.offer opened group
  | close =>
    exact ⟨balanced.crew.close, balanced.accepted_eq, balanced.workers_eq, balanced.capacity_eq⟩
  | work step =>
    rcases step.frame with ⟨workers, capacity, -, accepted⟩
    exact ⟨balanced.crew.step step, accepted.trans balanced.accepted_eq,
      workers.trans balanced.workers_eq, capacity.trans balanced.capacity_eq⟩

theorem run (balanced : shift.Balanced sink pool state) (reached : Reaches sink shift next) :
    next.Balanced sink pool state := by
  induction reached with
  | refl => exact balanced
  | tail _ step ih => exact ih.step step

theorem length_le (balanced : shift.Balanced sink pool state) :
    shift.crew.pool.queue.length ≤ pool.capacity := by
  rw [← balanced.capacity_eq]
  exact balanced.crew.bounded

/-- The answer to an offer tells whether there was room, and a refused one changes nothing. -/
theorem offer_cases (balanced : shift.Balanced sink pool state) (some : pool.workers ≠ 0)
    (group : AlertGroup) :
    ((shift.crew.offer group).1 = .accepted ∧ shift.crew.pool.queue.length < pool.capacity) ∨
      (shift.crew.offer group = (.refused .full, shift.crew) ∧
        shift.crew.pool.queue.length = pool.capacity) := by
  have bounded := balanced.length_le
  rw [← balanced.workers_eq] at some
  by_cases room : shift.crew.pool.queue.length < pool.capacity
  · have free : ¬ shift.crew.pool.capacity ≤ shift.crew.pool.queue.length := by
      rw [balanced.capacity_eq]
      omega
    exact .inl ⟨by simp [Crew.offer, EmitterPool.submit, some, free], room⟩
  · have full : shift.crew.pool.capacity ≤ shift.crew.pool.queue.length := by
      rw [balanced.capacity_eq]
      omega
    exact .inr ⟨by simp [Crew.offer, EmitterPool.submit, some, full, Submission.isAccepted],
      by omega⟩

end Balanced

end Shift

/-! ## What the final sink has no part in -/

/-- Two crews have done the same work, perhaps for different sinks. -/
structure Crew.SameWork {σ τ : Type} (crew : Crew σ) (other : Crew τ) : Prop where
  workers_eq : other.pool.workers = crew.pool.workers
  capacity_eq : other.pool.capacity = crew.pool.capacity
  queue_eq : other.pool.queue = crew.pool.queue
  phases_eq : other.workers.map Worker.phase = crew.workers.map Worker.phase
  isOpen_eq : other.isOpen = crew.isOpen
  accepted_eq : other.accepted = crew.accepted
  taken_eq : other.taken = crew.taken
  handedOver_eq : other.handedOver = crew.handedOver

namespace Crew.SameWork

variable {σ τ : Type} {crew next : Crew σ} {other : Crew τ} {sink : Sink σ}

/-- Where one crew has a worker, the other has one in the same phase. -/
theorem exists_split (same : crew.SameWork other) {before after : List Worker}
    {phase : WorkerPhase} {emitted : Nat}
    (split : crew.workers = before ++ ⟨phase, emitted⟩ :: after) :
    ∃ before' emitted' after', other.workers = before' ++ ⟨phase, emitted'⟩ :: after' ∧
      before'.map Worker.phase = before.map Worker.phase ∧
      after'.map Worker.phase = after.map Worker.phase := by
  have phases := same.phases_eq
  rw [split, List.map_append, List.map_cons] at phases
  rcases List.map_eq_append_iff.1 phases with ⟨before', rest, whole, front, back⟩
  rcases List.map_eq_cons_iff.1 back with ⟨⟨_, emitted'⟩, after', rfl, rfl, tail⟩
  exact ⟨before', emitted', after', whole, front, tail⟩

theorem offer (same : crew.SameWork other) (group : AlertGroup) :
    (other.offer group).1 = (crew.offer group).1 ∧
      (crew.offer group).2.SameWork (other.offer group).2 := by
  rcases same with ⟨workers, capacity, queue, phases, opened, accepted, taken, handedOver⟩
  simp only [Crew.offer, EmitterPool.submit, workers, capacity, queue]
  split
  · exact ⟨rfl, workers, capacity, queue, phases, opened, accepted, taken, handedOver⟩
  split
  · exact ⟨rfl, workers, capacity, queue, phases, opened, accepted, taken, handedOver⟩
  · exact ⟨rfl, rfl, rfl, rfl, phases, opened, congrArg (· ++ [group]) accepted, taken, handedOver⟩

theorem close (same : crew.SameWork other) : crew.close.SameWork other.close :=
  ⟨same.workers_eq, same.capacity_eq, same.queue_eq, same.phases_eq, rfl, same.accepted_eq,
    same.taken_eq, same.handedOver_eq⟩

/-- A step that a worker takes for one sink can be taken for any other. -/
theorem exists_step (same : crew.SameWork other) (step : crew.Step sink next)
    (otherSink : Sink τ) : ∃ last, other.Step otherSink last ∧ next.SameWork last := by
  cases step with
  | take worker next =>
    rcases EmitterPool.take?_eq_some.1 next with ⟨rest, queue, rfl⟩
    rcases same.exists_split worker with ⟨before', emitted', after', worker', front, back⟩
    have next' := EmitterPool.take?_eq_some.2 ⟨rest, same.queue_eq.trans queue, rfl⟩
    refine ⟨_, .take worker' next', ?_⟩
    exact ⟨same.workers_eq, same.capacity_eq, rfl, by simp [front, back], same.isOpen_eq,
      same.accepted_eq, by rw [same.taken_eq], same.handedOver_eq⟩
  | deliver worker =>
    rcases same.exists_split worker with ⟨before', emitted', after', worker', front, back⟩
    refine ⟨_, .deliver worker', ?_⟩
    have handedOver := same.handedOver_eq
    simp only [Crew.handedOver] at handedOver
    exact ⟨same.workers_eq, same.capacity_eq, same.queue_eq, by simp [front, back],
      same.isOpen_eq, same.accepted_eq, same.taken_eq,
      by simp [Crew.handedOver, EmitterPool.deliver, handedOver]⟩
  | leave worker closed empty =>
    rcases same.exists_split worker with ⟨before', emitted', after', worker', front, back⟩
    refine ⟨_, .leave worker' (same.isOpen_eq.trans closed) (same.queue_eq.trans empty), ?_⟩
    exact ⟨same.workers_eq, same.capacity_eq, same.queue_eq, by simp [front, back],
      same.isOpen_eq, same.accepted_eq, same.taken_eq, same.handedOver_eq⟩

end Crew.SameWork

namespace Shift

variable {σ τ : Type} {sink : Sink σ}

theorem sameWork_start {pool : EmitterPool} (state : σ) (otherState : τ) :
    (start pool state).crew.SameWork (start pool otherState).crew := by
  constructor <;> rfl

/-- A shift that one sink lets happen happens in the same way with any other. -/
theorem exists_sameWork {pool : EmitterPool} {state : σ} {shift : Shift σ}
    (reached : Reaches sink (start pool state) shift) (otherSink : Sink τ) (otherState : τ) :
    ∃ other, Reaches otherSink (start pool otherState) other ∧ other.offers = shift.offers ∧
      shift.crew.SameWork other.crew := by
  induction reached with
  | refl => exact ⟨_, .refl, rfl, sameWork_start state otherState⟩
  | tail _ step ih =>
    rcases ih with ⟨other, reached, offers, same⟩
    cases step with
    | offer group opened =>
      rcases same.offer group with ⟨answer, sameAfter⟩
      refine ⟨_, reached.tail (.offer group (same.isOpen_eq.trans opened)), ?_, sameAfter⟩
      rw [offers, answer]
    | close => exact ⟨_, reached.tail .close, offers, same.close⟩
    | work step =>
      rcases same.exists_step step otherSink with ⟨last, step, same⟩
      exact ⟨_, reached.tail (.work step), offers, same⟩

/-! ## The end of a shift -/

theorem reaches_of_work {shift : Shift σ} {crew : Crew σ}
    (steps : Relation.ReflTransGen (Crew.Step sink) shift.crew crew) :
    Reaches sink shift { shift with crew } := by
  induction steps with
  | refl => exact .refl
  | tail _ step ih => exact ih.tail (.work step)

/-- From wherever a shift stands, the submitters and then the workers can go. -/
theorem exists_isOver (sink : Sink σ) (shift : Shift σ) :
    ∃ last, Reaches sink shift last ∧ last.offers = shift.offers ∧ last.crew.IsOver := by
  rcases Crew.exists_isOver sink shift.crew.close rfl with ⟨crew, steps, isOver⟩
  let closed : Shift σ := { shift with crew := shift.crew.close }
  have work : Reaches sink closed { closed with crew } := reaches_of_work steps
  exact ⟨_, .head .close work, rfl, isOver⟩

/--
In every state that a shift of a pool with workers can reach, whatever the final sink does:
the queue holds no more groups than it has room for, and an offer is accepted if there is
room and otherwise refused as full, without a trace; the accepted groups are those that were
taken, in the order of their acceptance, and those in the queue; what was taken was handed to
the final sink once, one group after the other, or is in the hands of a worker; and a worker
is gone only if the queue is empty and nobody can submit any more. Once all workers are gone,
all that was accepted was taken and handed over once, and just then waiting for them reports
the number of groups that the final sink took. Any other sink would have had the same offers
answered alike and the same groups handed over by the same workers. The workers can all go
from wherever the shift stands.
-/
theorem accepted_groups_are_handed_over_once {workers : Nat} (staffed : workers ≠ 0)
    (capacity : Nat) (sink : Sink σ) (state : σ) {shift : Shift σ}
    (reached : Reaches sink (start { workers, capacity } state) shift) :
    let crew := shift.crew
    crew.pool.queue.length ≤ capacity ∧
      (∀ group,
        ((crew.offer group).1 = .accepted ∧ crew.pool.queue.length < capacity) ∨
          (crew.offer group = (.refused .full, crew) ∧ crew.pool.queue.length = capacity)) ∧
      shift.accepted = crew.taken ++ crew.pool.queue ∧
      crew.taken.Perm (crew.handedOver ++ crew.inHands) ∧
      submitAll sink crew.handedOver state = (crew.pool.handled, crew.sinkState) ∧
      (∀ worker ∈ crew.workers, worker.phase = .gone →
        crew.isOpen = false ∧ crew.pool.queue = []) ∧
      (crew.IsOver → shift.accepted = crew.taken ∧ shift.accepted.Perm crew.handedOver) ∧
      (∀ count, Worker.join? crew.workers = some count ↔
        crew.IsOver ∧ count = crew.pool.emitted) ∧
      (∀ {τ : Type} (otherSink : Sink τ) (otherState : τ), ∃ other,
        Reaches otherSink (start { workers, capacity } otherState) other ∧
          other.offers = shift.offers ∧ crew.SameWork other.crew) ∧
      ∃ last, Reaches sink shift last ∧ last.offers = shift.offers ∧ last.crew.IsOver := by
  intro crew
  have balanced := (balanced_start ⟨rfl, rfl⟩ sink state).run reached
  have books := balanced.crew
  have accepted := balanced.accepted_eq
  have present : crew.pool.workers ≠ 0 := balanced.workers_eq.symm ▸ staffed
  refine ⟨balanced.length_le, balanced.offer_cases staffed,
    accepted ▸ books.accepted_eq, books.taken_perm, books.handled_eq, books.left, ?_, ?_,
    exists_sameWork reached, shift.exists_isOver sink⟩
  · intro isOver
    have empty := (books.closed_of_isOver present isOver).2
    refine ⟨?_, accepted ▸ books.perm_of_isOver present isOver⟩
    rw [← accepted, books.accepted_eq, empty, List.append_nil]
  · intro count
    rw [Worker.join?_eq_some_iff, books.emitted_eq]
    rfl

/-- Two workers, room for one group, and a final sink that breaks down over the first group
that it is given. The second offer is refused and repeated later; the worker that took the
first group hands it over last. -/
theorem accepted_groups_are_handed_over_once_refused_offer :
    let group (host : String) : AlertGroup := ⟨⟨"prod", 7, .metric, ["host"], [some host]⟩, []⟩
    let sink : Sink Nat := fun _ count => (if count = 0 then .crashed none else .accepted, count + 1)
    ∃ shift, Reaches sink (start { workers := 2, capacity := 1 } 0) shift ∧
      shift.offers = [(group "a", .accepted), (group "b", .refused .full), (group "b", .accepted)] ∧
      shift.crew.IsOver ∧ shift.crew.handedOver = [group "b", group "a"] ∧
      shift.accepted.Perm shift.crew.handedOver ∧ Worker.join? shift.crew.workers = some 1 := by
  intro group sink
  let a := group "a"
  let b := group "b"
  let offers : List (AlertGroup × Submission) :=
    [(a, .accepted), (b, .refused .full), (b, .accepted)]
  let free : Worker := {}
  let served : Worker := ⟨.free, 1⟩
  let busy (group : AlertGroup) : Worker := ⟨.busy group, 0⟩
  let gone (emitted : Nat) : Worker := ⟨.gone, emitted⟩
  let last : Shift Nat :=
    ⟨⟨⟨2, 1, [], [(b, .crashed none), (a, .accepted)]⟩, [gone 1, gone 0], 2, false, [a, b],
      [a, b]⟩, offers⟩
  have reached : Reaches sink (start { workers := 2, capacity := 1 } 0) last := by
    refine .head (.offer a rfl) ?_
    refine .head (.offer b rfl) ?_
    refine .head (.work (.take (rfl : _ = [] ++ free :: [free]) rfl)) ?_
    refine .head (.offer b rfl) ?_
    refine .head (.work (.take (rfl : _ = [busy a] ++ free :: []) rfl)) ?_
    refine .head .close ?_
    refine .head (.work (.deliver (rfl : _ = [busy a] ++ busy b :: []))) ?_
    refine .head (.work (.deliver (rfl : _ = [] ++ busy a :: [free]))) ?_
    refine .head (.work (.leave (rfl : _ = [] ++ served :: [free]) rfl rfl)) ?_
    refine .head (.work (.leave (rfl : _ = [gone 1] ++ free :: []) rfl rfl)) ?_
    exact .refl
  have isOver : last.crew.IsOver := by simp [last, gone, Crew.IsOver]
  rcases accepted_groups_are_handed_over_once (by decide) 1 sink 0 reached with
    ⟨-, -, -, -, -, -, whenOver, report, -⟩
  exact ⟨last, reached, rfl, isOver, rfl, (whenOver isOver).2, (report 1).2 ⟨isOver, rfl⟩⟩

end Shift

end Alerting
