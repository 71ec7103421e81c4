import Alerting.Proofs.Flush.Progress
import Alerting.Proofs.Pipeline.Cycle
import Alerting.Session.Running

/-!
# The books of a running session

Whatever order the parts of a session take their steps in, three things hold all the way. The
observations of the input are in the pipeline, in the inbox or still to be read, in their
order. Each part waits for what it must wait for. And the alerts that the last cycle raised
are in the hands of the coordinator or in groups: buffered ones, groups of a flush under way,
and accepted ones.
-/

namespace Alerting

namespace Pipeline

variable (pipeline : Pipeline) (grouper : Grouper)

@[simp] theorem grouper_withGrouper : (pipeline.withGrouper grouper).grouper = grouper := rfl

@[simp] theorem withGrouper_withGrouper (other : Grouper) :
    (pipeline.withGrouper grouper).withGrouper other = pipeline.withGrouper other := rfl

variable {pipeline} in
theorem withGrouper_congr {other : Pipeline}
    (same : pipeline = other.withGrouper pipeline.grouper) :
    pipeline.withGrouper grouper = other.withGrouper grouper := by
  rw [same, withGrouper_withGrouper]

/-- What is buffered does not bear on what a cycle raises. -/
@[simp] theorem raisedBy_withGrouper (now : Instant) :
    (pipeline.withGrouper grouper).raisedBy now = pipeline.raisedBy now := rfl

/-- What is buffered does not bear on what a cycle does to the evaluators. -/
theorem cycle_withGrouper (now : Instant) (other : Grouper) :
    ((pipeline.withGrouper grouper).cycle now).2.withGrouper other =
      (pipeline.cycle now).2.withGrouper other := rfl

/-- What is buffered does not bear on where an observation goes. -/
theorem observe_withGrouper (observation : Observation) :
    (pipeline.withGrouper grouper).observe observation =
      (pipeline.observe observation).withGrouper grouper := by
  have held : (pipeline.withGrouper grouper).evaluators = pipeline.evaluators := rfl
  rw [observe, observe, held]
  split
  · rfl
  · split <;> rfl

end Pipeline

/-- What the coordinator has not done before the scheduler ended. -/
structure Coordinator.IsEarly (coordinator : Coordinator) : Prop where
  hasWithdrawn : coordinator.hasWithdrawn = false
  hasClosed : coordinator.hasClosed = false
  remaining : coordinator.remaining = []
  not_joining : coordinator ≠ .joining
  not_finished : coordinator ≠ .finished
  not_failed : coordinator ≠ .failed

theorem Coordinator.of_hasStopped_eq_false {coordinator : Coordinator}
    (early : coordinator.hasStopped = false) : coordinator.IsEarly := by
  cases coordinator
  case flushing | saving | joining | finished | failed => cases early
  all_goals exact ⟨rfl, rfl, rfl, by simp, by simp, by simp⟩

namespace RunningSession

variable {σ : Type}

section ToRead

variable {line : Bytes} {rest : List Bytes}

theorem toRead_of_observation {observation : Observation}
    (meaning : Ingest.readLine line = .observation observation) :
    toRead (some (line :: rest)) = observation :: toRead (some rest) := by
  simp [toRead, meaning, Ingest.LineMeaning.observation?]

theorem toRead_of_skipped
    (meaning : Ingest.readLine line = .blank ∨ Ingest.readLine line = .malformed) :
    toRead (some (line :: rest)) = toRead (some rest) := by
  rcases meaning with blank | malformed
  · simp [toRead, blank, List.filterMap_cons, Ingest.LineMeaning.observation?]
  · simp [toRead, malformed, List.filterMap_cons, Ingest.LineMeaning.observation?]

theorem toRead_of_notText (meaning : Ingest.readLine line = .notText) :
    toRead (some (line :: rest)) = [] := by
  simp [toRead, meaning]

end ToRead

/-! ## What was observed -/

/-- What an input brings to a pipeline, and when the last cycle runs on it. -/
structure Batch where
  origin : Pipeline
  observations : List Observation
  now : Instant

namespace Batch

/-- The pipeline that the last cycle finds. -/
def fed (batch : Batch) : Pipeline := batch.observations.foldl Pipeline.observe batch.origin

/-- The alerts that the last cycle raises. -/
def raised (batch : Batch) : List Alert := batch.fed.raisedBy batch.now

end Batch

/-- Each observation of a batch is in the pipeline, in the inbox or still to be read, and the
last cycle runs on all of them. -/
structure Intake (batch : Batch) (state : RunningSession σ) : Prop where
  rules : state.pipeline.grouper.rules = batch.origin.grouper.rules
  reading : state.coordinator = .receiving → ∃ seen,
    seen ++ state.inbox ++ toRead state.unread = batch.observations ∧
      state.pipeline =
        (seen.foldl Pipeline.observe batch.origin).withGrouper state.pipeline.grouper
  read : state.coordinator = .draining → state.unread = none ∧ state.inbox = [] ∧
    state.pipeline = batch.fed.withGrouper state.pipeline.grouper
  cycled : state.coordinator.hasCycled = true →
    state.pipeline = (batch.fed.cycle batch.now).2.withGrouper state.pipeline.grouper

namespace Intake

variable {batch : Batch} {state next : RunningSession σ}

/-- Only what the coordinator does to the pipeline matters, and not what becomes of its grouper. -/
theorem withGrouper (intake : Intake batch state) {grouper : Grouper}
    (rules : grouper.rules = state.pipeline.grouper.rules) :
    Intake batch { state with pipeline := state.pipeline.withGrouper grouper } where
  rules := rules.trans intake.rules
  reading receiving := by
    rcases intake.reading receiving with ⟨seen, observed, same⟩
    exact ⟨seen, observed, Pipeline.withGrouper_congr grouper same⟩
  read draining := by
    rcases intake.read draining with ⟨unread, inbox, same⟩
    exact ⟨unread, inbox, Pipeline.withGrouper_congr grouper same⟩
  cycled past := Pipeline.withGrouper_congr grouper (intake.cycled past)

/-- After the cycle, the coordinator does nothing more to the evaluators. -/
theorem proceed (intake : Intake batch state) (past : state.coordinator.hasCycled = true)
    (coordinator : Coordinator) (after : coordinator.hasCycled = true) :
    Intake batch { state with coordinator } where
  rules := intake.rules
  reading receiving := by
    simp only at receiving
    rw [receiving] at after
    cases after
  read draining := by
    simp only at draining
    rw [draining] at after
    cases after
  cycled _ := intake.cycled past

/-- The reader moves observations from the lines to the inbox. -/
theorem move (intake : Intake batch state) {unread : Option (List Bytes)}
    {inbox : List Observation} (some : state.unread ≠ none)
    (same : inbox ++ toRead unread = state.inbox ++ toRead state.unread) :
    Intake batch { state with unread, inbox } where
  rules := intake.rules
  reading receiving := by
    rcases intake.reading receiving with ⟨seen, observed, origin⟩
    refine ⟨seen, ?_, origin⟩
    rw [List.append_assoc] at observed ⊢
    rw [same]
    exact observed
  read draining := absurd (intake.read draining).1 some
  cycled := intake.cycled

variable {sink : Sink σ} {circumstances : Circumstances}

/-- Each step leaves every observation in its place in the order. -/
theorem step (intake : Intake batch state) (sameTime : circumstances.now = batch.now)
    (step : Step sink circumstances state next) : Intake batch next := by
  cases step with
  | read unread meaning room =>
    refine intake.move (by simp [unread]) ?_
    rw [unread, toRead_of_observation meaning, List.append_assoc]
    rfl
  | skip unread meaning =>
    refine intake.move (by simp [unread]) ?_
    rw [unread, toRead_of_skipped meaning]
  | breakOff unread meaning =>
    refine intake.move (by simp [unread]) ?_
    rw [unread, toRead_of_notText meaning]
    rfl
  | endReading unread =>
    refine intake.move (by simp [unread]) ?_
    rw [unread]
    rfl
  | @receive observation rest reading inbox =>
    rcases reading with receiving | draining
    · rcases intake.reading receiving with ⟨seen, observed, same⟩
      have grouper : (state.pipeline.observe observation).grouper = state.pipeline.grouper :=
        Pipeline.grouper_observe
      constructor
      case rules => exact (congrArg Grouper.rules grouper).trans intake.rules
      case reading =>
        refine fun _ => ⟨seen ++ [observation], ?_, ?_⟩
        · rw [inbox] at observed
          simpa using observed
        · simp only [grouper, List.foldl_append, List.foldl_cons, List.foldl_nil,
            ← Pipeline.observe_withGrouper]
          exact congrArg (Pipeline.observe · observation) same
      case read => simp [receiving]
      case cycled => simp [receiving, Coordinator.hasCycled]
    · rw [(intake.read draining).2.1] at inbox
      cases inbox
  | closeInput receiving unread inbox =>
    rcases intake.reading receiving with ⟨seen, observed, same⟩
    have all : seen = batch.observations := by
      simpa [unread, inbox, toRead] using observed
    subst all
    constructor
    case rules => exact intake.rules
    case reading => simp
    case read => exact fun _ => ⟨unread, inbox, same⟩
    case cycled => simp [Coordinator.hasCycled]
  | evaluate draining inbox =>
    have same := (intake.read draining).2.2
    constructor
    case rules => exact intake.rules
    case reading => simp
    case read => simp
    case cycled =>
      intro _
      simp only [Pipeline.grouper_withGrouper, sameTime]
      exact (congrArg (fun pipeline => (Pipeline.cycle pipeline batch.now).2.withGrouper
        state.pipeline.grouper) same).trans (Pipeline.cycle_withGrouper _ _ _ _)
  | hand handing =>
    have past : state.coordinator.hasCycled = true := handing ▸ rfl
    exact (intake.withGrouper (Grouper.rules_add _ _)).proceed past _ rfl
  | cancel handing =>
    have past : state.coordinator.hasCycled = true := handing ▸ rfl
    exact intake.proceed past _ rfl
  | tick waiting going => exact { intake with }
  | flushOnTick running step => exact { intake.withGrouper step.frame.1 with }
  | endTick running => exact { intake.withGrouper (Grouper.rules_countGroups _ _) with }
  | endSchedule stopping waiting => exact { intake with }
  | beginFlush stopping ended =>
    have past : state.coordinator.hasCycled = true := stopping ▸ rfl
    exact intake.proceed past _ rfl
  | flushFinally running step =>
    have past : state.coordinator.hasCycled = true := running ▸ rfl
    exact { (intake.withGrouper step.frame.1).proceed past _ rfl with }
  | endFlush running =>
    have past : state.coordinator.hasCycled = true := running ▸ rfl
    exact (intake.withGrouper (Grouper.rules_countGroups _ _)).proceed past _ rfl
  | save saving saves =>
    have past : state.coordinator.hasCycled = true := saving ▸ rfl
    exact { intake.proceed past .joining rfl with }
  | saveNothing saving keeps =>
    have past : state.coordinator.hasCycled = true := saving ▸ rfl
    exact { intake.proceed past .joining rfl with }
  | failToSave saving fails =>
    have past : state.coordinator.hasCycled = true := saving ▸ rfl
    exact { intake.proceed past .failed rfl with }
  | work going step => exact { intake with }
  | join joining isOver =>
    have cycled : state.coordinator.hasCycled = true := joining ▸ rfl
    exact intake.proceed cycled _ rfl

end Intake

/-! ## Who waits for whom -/

/-- The coordinator goes on only when what it waits for has come about. -/
structure InOrder (batch : Batch) (circumstances : Circumstances) (state : RunningSession σ) :
    Prop where
  ended : state.coordinator.hasStopped = true → state.scheduler = .ended
  withdrawn : state.coordinator.hasWithdrawn = true → state.pipeline.grouper.groups = []
  isOpen_eq : state.crew.isOpen = !state.coordinator.hasClosed
  isOver : state.coordinator = .finished → state.crew.IsOver
  unsaved : state.coordinator.hasClosed = false → state.saved = none
  saved : state.coordinator = .joining ∨ state.coordinator = .finished →
    state.saved = circumstances.saving.map fun _ =>
      (batch.fed.cycle batch.now).2.checkpoint circumstances.takenAt
  failed : state.coordinator = .failed → circumstances.saving = some false

namespace InOrder

variable {batch : Batch} {circumstances : Circumstances} {sink : Sink σ}
  {state next : RunningSession σ}

/-- Before the scheduler ended, groups can be submitted and nothing is saved. -/
theorem of_hasStopped_eq_false (early : state.coordinator.hasStopped = false)
    (opened : state.crew.isOpen = true ∧ state.saved = none) : InOrder batch circumstances state := by
  have later := Coordinator.of_hasStopped_eq_false early
  constructor
  case ended => simp [early]
  case withdrawn => simp [later.hasWithdrawn]
  case isOpen_eq => simp [later.hasClosed, opened.1]
  case isOver => exact fun finished => absurd finished later.not_finished
  case unsaved => exact fun _ => opened.2
  case saved => exact fun kept => (kept.elim later.not_joining later.not_finished).elim
  case failed => exact fun failed => absurd failed later.not_failed

theorem opened (inOrder : InOrder batch circumstances state)
    (early : state.coordinator.hasStopped = false) :
    state.crew.isOpen = true ∧ state.saved = none := by
  have later := Coordinator.of_hasStopped_eq_false early
  rw [inOrder.isOpen_eq, later.hasClosed]
  exact ⟨rfl, inOrder.unsaved later.hasClosed⟩

/-- While the scheduler goes on, the coordinator has not come to the final flush. -/
theorem hasStopped_eq_false (inOrder : InOrder batch circumstances state)
    (going : state.scheduler ≠ .ended) : state.coordinator.hasStopped = false := by
  rw [Bool.eq_false_iff]
  exact fun stopped => going (inOrder.ended stopped)

/-- After the final flush, the queue is closed whatever becomes of the checkpoint. -/
theorem close (inOrder : InOrder batch circumstances state)
    (saving : state.coordinator = .saving) {saved : Option Checkpoint} {coordinator : Coordinator}
    (closes : coordinator = .joining ∨ coordinator = .failed)
    (kept : coordinator = .joining → saved = circumstances.saving.map fun _ =>
      (batch.fed.cycle batch.now).2.checkpoint circumstances.takenAt)
    (fails : coordinator = .failed → circumstances.saving = some false) :
    InOrder batch circumstances { state with saved, crew := state.crew.close, coordinator } := by
  have hasClosed : coordinator.hasClosed = true := by
    rcases closes with rfl | rfl <;> rfl
  have going : coordinator ≠ .finished := by
    rcases closes with rfl | rfl <;> simp
  constructor
  case ended => exact fun _ => inOrder.ended (saving ▸ rfl)
  case withdrawn => exact fun _ => inOrder.withdrawn (saving ▸ rfl)
  case isOpen_eq => simp [Crew.close, hasClosed]
  case isOver => exact fun finished => absurd finished going
  case unsaved => simp [hasClosed]
  case saved => exact fun waits => kept (waits.resolve_right going)
  case failed => exact fails

/-- Nobody goes on before what they wait for has come about. -/
theorem step (inOrder : InOrder batch circumstances state) (intake : Intake batch state)
    (step : Step sink circumstances state next) : InOrder batch circumstances next := by
  cases step with
  | read | skip | breakOff | endReading => exact { inOrder with }
  | receive reading inbox =>
    have early : state.coordinator.hasStopped = false := by
      rcases reading with receiving | draining
      · exact receiving ▸ rfl
      · exact draining ▸ rfl
    exact of_hasStopped_eq_false early (inOrder.opened early)
  | closeInput receiving unread inbox =>
    exact of_hasStopped_eq_false rfl (inOrder.opened (receiving ▸ rfl))
  | evaluate draining inbox =>
    exact of_hasStopped_eq_false rfl (inOrder.opened (draining ▸ rfl))
  | hand handing =>
    exact of_hasStopped_eq_false rfl (inOrder.opened (handing ▸ rfl))
  | cancel handing =>
    exact of_hasStopped_eq_false rfl (inOrder.opened (handing ▸ rfl))
  | tick waiting going =>
    have early := inOrder.hasStopped_eq_false (by simp [waiting])
    exact of_hasStopped_eq_false early (inOrder.opened early)
  | flushOnTick running step =>
    have early := inOrder.hasStopped_eq_false (by simp [running])
    have opened := inOrder.opened early
    exact of_hasStopped_eq_false early ⟨step.frame.2.2.2.trans opened.1, opened.2⟩
  | endTick running =>
    have early := inOrder.hasStopped_eq_false (by simp [running])
    exact of_hasStopped_eq_false early (inOrder.opened early)
  | endSchedule stopping waiting =>
    have early : state.coordinator.hasStopped = false := stopping ▸ rfl
    exact of_hasStopped_eq_false early (inOrder.opened early)
  | beginFlush stopping ended =>
    constructor
    case ended => exact fun _ => ended
    case withdrawn => simp [Coordinator.hasWithdrawn]
    case isOpen_eq => exact (inOrder.opened (stopping ▸ rfl)).1
    case isOver => simp
    case unsaved => exact fun _ => (inOrder.opened (stopping ▸ rfl)).2
    case saved => simp
    case failed => simp
  | @flushFinally progress after running step =>
    have ended : state.scheduler = .ended := inOrder.ended (running ▸ rfl)
    have opened : state.crew.isOpen = true := by
      simp [inOrder.isOpen_eq, running, Coordinator.hasClosed]
    constructor
    case ended => exact fun _ => ended
    case withdrawn =>
      intro _
      refine step.groups_eq_nil fun begun => inOrder.withdrawn ?_
      rw [running]
      cases progress with
      | started => exact absurd rfl begun
      | submitting remaining submissions => rfl
    case isOpen_eq => exact step.frame.2.2.2.trans opened
    case isOver => simp
    case unsaved => exact fun _ => inOrder.unsaved (running ▸ rfl)
    case saved => simp
    case failed => simp
  | endFlush running =>
    constructor
    case ended => exact fun _ => inOrder.ended (running ▸ rfl)
    case withdrawn => exact fun _ => inOrder.withdrawn (running ▸ rfl)
    case isOpen_eq => simp [inOrder.isOpen_eq, running, Coordinator.hasClosed]
    case isOver => simp
    case unsaved => exact fun _ => inOrder.unsaved (running ▸ rfl)
    case saved => simp
    case failed => simp
  | save saving saves =>
    refine inOrder.close saving (.inl rfl) (fun _ => ?_) (by simp)
    have taken : state.pipeline.checkpoint circumstances.takenAt = _ :=
      congrArg (Pipeline.checkpoint · circumstances.takenAt) (intake.cycled (saving ▸ rfl))
    rw [taken, saves]
    rfl
  | saveNothing saving keeps =>
    refine inOrder.close saving (.inl rfl) (fun _ => ?_) (by simp)
    rw [keeps]
    exact inOrder.unsaved (saving ▸ rfl)
  | failToSave saving fails =>
    exact inOrder.close saving (.inr rfl) (by simp) fun _ => fails
  | work going step =>
    constructor
    case ended => exact inOrder.ended
    case withdrawn => exact inOrder.withdrawn
    case isOpen_eq => exact step.frame.2.2.1.trans inOrder.isOpen_eq
    case isOver =>
      intro finished
      rw [finished] at going
      cases going
    case unsaved => exact inOrder.unsaved
    case saved => exact inOrder.saved
    case failed => exact inOrder.failed
  | join joining isOver =>
    constructor
    case ended => exact fun _ => inOrder.ended (joining ▸ rfl)
    case withdrawn => exact fun _ => inOrder.withdrawn (joining ▸ rfl)
    case isOpen_eq => simp [inOrder.isOpen_eq, joining, Coordinator.hasClosed]
    case isOver => exact fun _ => isOver
    case unsaved => simp [Coordinator.hasClosed]
    case saved => exact fun _ => inOrder.saved (.inl joining)
    case failed => simp

end InOrder

/-! ## Where the alerts are -/

section Groups

variable {batch : Batch} {circumstances : Circumstances} {state : RunningSession σ}

/-- The groups of a session are those that its scheduled flush is about. -/
theorem groups_eq_of_scheduler {progress : FlushProgress} (inOrder : InOrder batch circumstances state)
    (running : state.scheduler = .flushing progress) :
    state.groups = (state.flushing progress).groups := by
  have early := Coordinator.of_hasStopped_eq_false (inOrder.hasStopped_eq_false (by simp [running]))
  simp [groups, Flushing.groups, flushing, running, early.remaining, Scheduler.remaining]

/-- The groups of a session are those that its final flush is about. -/
theorem groups_eq_of_coordinator {progress : FlushProgress}
    (inOrder : InOrder batch circumstances state) (running : state.coordinator = .flushing progress) :
    state.groups = (state.flushing progress).groups := by
  have ended := inOrder.ended (running ▸ rfl)
  simp [groups, Flushing.groups, flushing, running, ended, Scheduler.remaining,
    Coordinator.remaining]

end Groups

/-- The books of a session balance: its observations, its order, its crew, and the alerts of its
last cycle, which are outstanding or in groups. There is room for all of them. -/
structure Accounts (batch : Batch) (circumstances : Circumstances) (sink : Sink σ) (start : σ)
    (state : RunningSession σ) : Prop where
  intake : Intake batch state
  inOrder : InOrder batch circumstances state
  balanced : state.crew.Balanced sink start
  workers : state.crew.pool.workers ≠ 0
  fits : batch.raised.length ≤ state.crew.pool.capacity
  gathers : ∃ handed, handed ++ state.coordinator.outstanding batch.raised = batch.raised ∧
    Gathers batch.origin.grouper.rules handed state.groups

namespace Accounts

variable {batch : Batch} {circumstances : Circumstances} {sink : Sink σ} {start : σ}
  {state next : RunningSession σ}

/-- There is room for all groups. -/
theorem length_groups_le (accounts : Accounts batch circumstances sink start state) :
    state.groups.length ≤ state.crew.pool.capacity := by
  rcases accounts.gathers with ⟨handed, split, gathers⟩
  have parts := congrArg List.length split
  rw [List.length_append] at parts
  have few := gathers.length_le
  have fits := accounts.fits
  omega

/-- A step of a flush is no loss. -/
theorem groups_perm_of_flushing (accounts : Accounts batch circumstances sink start state)
    {progress : FlushProgress} (same : state.groups = (state.flushing progress).groups)
    {flushing : Flushing σ} (step : Flushing.Step (state.flushing progress) flushing) :
    flushing.groups.Perm state.groups := by
  have room := accounts.length_groups_le
  rw [same] at room ⊢
  exact step.groups_perm accounts.balanced accounts.workers room

theorem gathers_step (accounts : Accounts batch circumstances sink start state)
    (sameTime : circumstances.now = batch.now) (step : Step sink circumstances state next) :
    ∃ handed, handed ++ next.coordinator.outstanding batch.raised = batch.raised ∧
      Gathers batch.origin.grouper.rules handed next.groups := by
  have nextInOrder := accounts.inOrder.step accounts.intake step
  rcases accounts.gathers with ⟨handed, split, gathers⟩
  cases step with
  | read | skip | breakOff | endReading => exact ⟨handed, split, gathers⟩
  | @receive observation rest reading inbox =>
    have grouper : (state.pipeline.observe observation).grouper = state.pipeline.grouper :=
      Pipeline.grouper_observe
    refine ⟨handed, split, ?_⟩
    simp only [groups, grouper]
    exact gathers
  | closeInput receiving unread inbox =>
    rw [receiving] at split
    refine ⟨handed, split, ?_⟩
    simpa [groups, receiving, Coordinator.remaining] using gathers
  | evaluate draining inbox =>
    have same : state.pipeline.raisedBy circumstances.now = batch.raised := by
      rw [sameTime, (accounts.intake.read draining).2.2, Pipeline.raisedBy_withGrouper]
      rfl
    rw [draining] at split
    refine ⟨handed, ?_, ?_⟩
    · simpa [Coordinator.outstanding, same] using split
    · simpa [groups, draining, Coordinator.remaining] using gathers
  | @hand alert rest handing =>
    rw [handing] at split
    refine ⟨handed ++ [alert], ?_, ?_⟩
    · simpa [Coordinator.outstanding] using split
    · have before : Gathers batch.origin.grouper.rules handed
          (state.crew.accepted ++ state.scheduler.remaining ++ state.pipeline.grouper.groups) := by
        simpa [groups, handing, Coordinator.remaining] using gathers
      simpa [groups, Coordinator.remaining] using before.add accounts.intake.rules alert
  | cancel handing =>
    rw [handing] at split
    refine ⟨handed, split, ?_⟩
    simpa [groups, handing, Coordinator.remaining] using gathers
  | tick waiting going =>
    refine ⟨handed, split, ?_⟩
    simpa [groups, waiting, Scheduler.remaining, FlushProgress.remaining] using gathers
  | @flushOnTick progress after running step =>
    refine ⟨handed, split, gathers.of_perm ?_⟩
    have same := groups_eq_of_scheduler accounts.inOrder running
    have sameNext := groups_eq_of_scheduler nextInOrder rfl
    rw [sameNext]
    exact accounts.groups_perm_of_flushing same step
  | endTick running =>
    refine ⟨handed, split, ?_⟩
    simpa [groups, running, Scheduler.remaining, FlushProgress.remaining] using gathers
  | endSchedule stopping waiting =>
    refine ⟨handed, split, ?_⟩
    simpa [groups, waiting, Scheduler.remaining] using gathers
  | beginFlush stopping ended =>
    rw [stopping] at split
    refine ⟨handed, split, ?_⟩
    simpa [groups, stopping, Coordinator.remaining, FlushProgress.remaining] using gathers
  | @flushFinally progress after running step =>
    rw [running] at split
    refine ⟨handed, split, gathers.of_perm ?_⟩
    have same := groups_eq_of_coordinator accounts.inOrder running
    have sameNext := groups_eq_of_coordinator nextInOrder rfl
    rw [sameNext]
    exact accounts.groups_perm_of_flushing same step
  | endFlush running =>
    rw [running] at split
    refine ⟨handed, split, ?_⟩
    simpa [groups, running, Coordinator.remaining, FlushProgress.remaining] using gathers
  | save saving | saveNothing saving | failToSave saving =>
    rw [saving] at split
    refine ⟨handed, split, ?_⟩
    simpa [groups, saving, Coordinator.remaining, Crew.close] using gathers
  | work going step =>
    refine ⟨handed, split, ?_⟩
    simpa [groups, step.frame.2.2.2] using gathers
  | join joining isOver =>
    rw [joining] at split
    refine ⟨handed, split, ?_⟩
    simpa [groups, joining, Coordinator.remaining] using gathers

/-- The crew keeps its books whatever the parts of the session do. -/
theorem balanced_step (inOrder : InOrder batch circumstances state)
    (balanced : state.crew.Balanced sink start) (step : Step sink circumstances state next) :
    next.crew.Balanced sink start ∧ next.crew.pool.workers = state.crew.pool.workers ∧
      next.crew.pool.capacity = state.crew.pool.capacity := by
  cases step with
  | @flushOnTick progress after running step =>
    have opened := (inOrder.opened (inOrder.hasStopped_eq_false (by simp [running]))).1
    exact ⟨step.balanced balanced opened, step.frame.2.1, step.frame.2.2.1⟩
  | @flushFinally progress after running step =>
    have opened : state.crew.isOpen = true := by
      simp [inOrder.isOpen_eq, running, Coordinator.hasClosed]
    exact ⟨step.balanced balanced opened, step.frame.2.1, step.frame.2.2.1⟩
  | save | saveNothing | failToSave => exact ⟨balanced.close, rfl, rfl⟩
  | work going step => exact ⟨balanced.step step, step.frame.1, step.frame.2.1⟩
  | _ => exact ⟨balanced, rfl, rfl⟩

/-- Whatever step a part of the session takes, the books balance after it. -/
theorem step (accounts : Accounts batch circumstances sink start state)
    (sameTime : circumstances.now = batch.now) (step : Step sink circumstances state next) :
    Accounts batch circumstances sink start next := by
  rcases balanced_step accounts.inOrder accounts.balanced step with ⟨balanced, workers, capacity⟩
  constructor
  case intake => exact accounts.intake.step sameTime step
  case inOrder => exact accounts.inOrder.step accounts.intake step
  case balanced => exact balanced
  case workers => exact workers ▸ accounts.workers
  case fits => exact capacity ▸ accounts.fits
  case gathers => exact accounts.gathers_step sameTime step

theorem run (accounts : Accounts batch circumstances sink start state)
    (sameTime : circumstances.now = batch.now) (reached : Reaches sink circumstances state next) :
    Accounts batch circumstances sink start next := by
  induction reached with
  | refl => exact accounts
  | tail _ step ih => exact ih.step sameTime step

end Accounts

end RunningSession

end Alerting
