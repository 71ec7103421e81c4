import Alerting.Proofs.Checkpoint.RoundTrip
import Alerting.Proofs.Evaluator.Restart
import Alerting.Proofs.Pipeline.Isolation

/-!
# Restarts

A pipeline that is built anew and restored from a saved checkpoint has the evaluators of the
running one, restarted. Observations keep them so, and so the next cycle hands over the same
alerts. Only its purge differs: the first one after a start looks further back.
-/

namespace Alerting.Pipeline

/-! ## What no run changes -/

/-- The settings of a pipeline are those that it came into being with. -/
structure Descends (origin pipeline : Pipeline) : Prop where
  purge : pipeline.purge = origin.purge
  rules : pipeline.grouper.rules = origin.grouper.rules
  evaluators : ∀ id, (pipeline.evaluators.get? id).map Evaluator.blank =
    (origin.evaluators.get? id).map Evaluator.blank

namespace Descends

variable {origin pipeline : Pipeline}

theorem refl (pipeline : Pipeline) : Descends pipeline pipeline := ⟨rfl, rfl, fun _ => rfl⟩

theorem restore (descends : Descends origin pipeline) (checkpoint : Checkpoint) :
    Descends origin (pipeline.restore checkpoint) where
  purge := (purge_restore _ _).trans descends.purge
  rules := by rw [grouper_restore, descends.rules]
  evaluators id := by
    rw [get?_restore, Option.map_map, ← descends.evaluators]
    apply Option.map_congr
    intro evaluator _
    exact evaluator.blank_restore _

theorem observe (descends : Descends origin pipeline) (observation : Observation) :
    Descends origin (pipeline.observe observation) where
  purge := purge_observe.trans descends.purge
  rules := by rw [grouper_observe, descends.rules]
  evaluators id := by
    rw [get?_observe, ← descends.evaluators]
    split
    · rw [Option.map_map]
      apply Option.map_congr
      intro evaluator _
      exact evaluator.blank_offer observation
    · rfl

theorem observeAll (descends : Descends origin pipeline) (batch : List Observation) :
    Descends origin (batch.foldl Pipeline.observe pipeline) := by
  induction batch generalizing pipeline with
  | nil => exact descends
  | cons observation rest ih => exact ih (descends.observe observation)

theorem cycle (descends : Descends origin pipeline) (now : Instant) :
    Descends origin (pipeline.cycle now).2 where
  purge := descends.purge
  rules := by rw [grouper_cycle, Grouper.rules_addAll, descends.rules]
  evaluators id := by
    rw [get?_cycle, Option.map_map, ← descends.evaluators]
    apply Option.map_congr
    intro evaluator _
    exact evaluator.blank_cycle pipeline.purge now

theorem run {σ : Type} {journal : Journal σ} (descends : Descends origin journal.pipeline)
    (sink : Sink σ) (commands : List PipelineCommand) :
    Descends origin (journal.run sink commands).pipeline := by
  induction commands generalizing journal with
  | nil => exact descends
  | cons command rest ih =>
    apply ih
    cases command with
    | observe observation => exact descends.observe observation
    | cycle now => exact descends.cycle now
    | flush => exact ⟨descends.purge, descends.rules, descends.evaluators⟩

end Descends

/-- Every evaluator has run a cycle. -/
def Started (pipeline : Pipeline) : Prop :=
  ∀ id evaluator, pipeline.evaluators.get? id = some evaluator → evaluator.isFirstRun = false

theorem started_cycle (pipeline : Pipeline) (now : Instant) : (pipeline.cycle now).2.Started := by
  intro id evaluator held
  rw [get?_cycle] at held
  rcases Option.map_eq_some_iff.1 held with ⟨before, -, rfl⟩
  rfl

theorem Started.observe {pipeline : Pipeline} (started : pipeline.Started)
    (observation : Observation) : (pipeline.observe observation).Started := by
  intro id evaluator held
  rw [get?_observe] at held
  split at held
  · rcases Option.map_eq_some_iff.1 held with ⟨before, heldBefore, rfl⟩
    have unchanged : (before.offer observation).isFirstRun = before.isFirstRun := by
      rw [Evaluator.offer_eq]
    exact unchanged.trans (started id before heldBefore)
  · exact started id evaluator held

theorem Started.step {σ : Type} {journal : Journal σ} (started : journal.pipeline.Started)
    (sink : Sink σ) (command : PipelineCommand) : (journal.step sink command).pipeline.Started := by
  cases command with
  | observe observation => exact started.observe observation
  | cycle now => exact journal.pipeline.started_cycle now
  | flush => exact started

theorem Started.run {σ : Type} {journal : Journal σ} (started : journal.pipeline.Started)
    (sink : Sink σ) (commands : List PipelineCommand) :
    (journal.run sink commands).pipeline.Started := by
  induction commands generalizing journal with
  | nil => exact started
  | cons command rest ih => exact ih (started.step sink command)

/-- After a run with at least one cycle, every evaluator has run one. -/
theorem started_run {σ : Type} (journal : Journal σ) (sink : Sink σ)
    {commands : List PipelineCommand} {now : Instant} (cycled : .cycle now ∈ commands) :
    (journal.run sink commands).pipeline.Started := by
  induction commands generalizing journal with
  | nil => simp at cycled
  | cons command rest ih =>
    rcases List.mem_cons.1 cycled with rfl | later
    · exact Started.run (journal.pipeline.started_cycle now) sink rest
    · exact ih (journal.step sink command) later

/-- What is known about an entity of an alert just before the purge of the next cycle. -/
def beforePurge? (pipeline : Pipeline) (now : Instant) (alert : AlertId) (id : EntityId) :
    Option Entity :=
  (pipeline.evaluators.get? alert).bind fun evaluator => (evaluator.beforePurge now).stored? id

/-! ## Restarted pipelines -/

/-- A pipeline has the evaluators of a running one, restarted. -/
structure Restarts (running restarted : Pipeline) : Prop where
  purge : restarted.purge = running.purge
  rules : restarted.grouper.rules = running.grouper.rules
  started : running.Started
  evaluators : restarted.evaluators = running.evaluators.mapValues Evaluator.restarted

/-- If nothing waits, nothing waits at any evaluator. -/
theorem pending_eq_nil {pipeline : Pipeline} (idle : pipeline.waiting = 0) {id : AlertId}
    {evaluator : Evaluator} (held : pipeline.evaluators.get? id = some evaluator) :
    evaluator.pending = [] := by
  rw [waiting, SortedMap.total] at idle
  have none := eq_zero_of_sumOf_eq_zero _ idle (SortedMap.mem_toList.2 held)
  exact List.eq_nil_of_length_eq_zero none

/-- With the checkpoint of an idle pipeline, a fresh one restarts it. -/
theorem restarts_restore_checkpoint {fresh running : Pipeline} (descends : Descends fresh running)
    (blank : ∀ id evaluator, fresh.evaluators.get? id = some evaluator →
      evaluator.blank = evaluator)
    (started : running.Started) (idle : running.waiting = 0) (takenAt : Instant) :
    Restarts running (fresh.restore (running.checkpoint takenAt)) where
  purge := (purge_restore _ _).trans descends.purge.symm
  rules := by rw [grouper_restore, descends.rules]
  started := started
  evaluators := by
    apply SortedMap.eq_of_get?_eq
    intro id
    have records : (running.checkpoint takenAt).alerts.get? id =
        (running.evaluators.get? id).map Evaluator.records := SortedMap.get?_mapValues _ _ _
    have settings : (running.evaluators.get? id).map Evaluator.blank =
        fresh.evaluators.get? id := by
      rw [descends.evaluators]
      cases held : fresh.evaluators.get? id with
      | none => rfl
      | some evaluator => rw [Option.map_some, blank id evaluator held]
    rw [get?_restore, records, ← settings, SortedMap.get?_mapValues]
    cases held : running.evaluators.get? id with
    | none => rfl
    | some evaluator =>
      have restored := evaluator.restore_records_blank (pending_eq_nil idle held)
      simp only [Option.map_some, Option.getD_some, restored]

namespace Restarts

variable {running restarted : Pipeline}

theorem checkpoint_eq (restarts : Restarts running restarted) (takenAt : Instant) :
    restarted.checkpoint takenAt = running.checkpoint takenAt := by
  rw [checkpoint, checkpoint, restarts.evaluators, SortedMap.mapValues_mapValues]
  rfl

theorem observe (restarts : Restarts running restarted) (observation : Observation) :
    Restarts (running.observe observation) (restarted.observe observation) where
  purge := by rw [purge_observe, purge_observe, restarts.purge]
  rules := by rw [grouper_observe, grouper_observe, restarts.rules]
  started := restarts.started.observe observation
  evaluators := by
    apply SortedMap.eq_of_get?_eq
    intro id
    rw [get?_observe, SortedMap.get?_mapValues, get?_observe, restarts.evaluators,
      SortedMap.get?_mapValues]
    split
    · rw [Option.map_map, Option.map_map]
      apply Option.map_congr
      intro evaluator _
      exact (evaluator.restarted_offer observation).symm
    · rfl

theorem observeAll (restarts : Restarts running restarted) (batch : List Observation) :
    Restarts (batch.foldl Pipeline.observe running) (batch.foldl Pipeline.observe restarted) := by
  induction batch generalizing running restarted with
  | nil => exact restarts
  | cons observation rest ih => exact ih (restarts.observe observation)

/-- The next cycle hands over the same alerts with the same group keys. -/
theorem handedOver_eq (restarts : Restarts running restarted) (now : Instant) :
    restarted.handedOver now = running.handedOver now := by
  have raised : restarted.raisedBy now = running.raisedBy now := by
    rw [raisedBy_eq, raisedBy_eq, restarts.evaluators, restarts.purge, SortedMap.mapValues,
      List.flatMap_map]
    apply List.flatMap_congr
    intro entry _
    exact entry.2.alerts_restarted now running.purge.cutoff
  rw [handedOver, handedOver, raised, restarts.rules]

theorem stored?_cycle (restarts : Restarts running restarted)
    (fits : (running.purge.firstRunWindow.toNat : Int) ≤ Int64.maxValue.toInt) (now : Instant)
    (alert : AlertId) (id : EntityId) (entity : Entity) :
    ((restarted.cycle now).2.stored? alert id = some entity ↔
      (running.cycle now).2.stored? alert id = some entity ∨
        running.purge.SparesAtFirst now entity ∧
          running.beforePurge? now alert id = some entity) ∧
    (running.purge.SparesAtFirst now entity →
      (running.cycle now).2.stored? alert id ≠ some entity) := by
  rw [stored?, stored?, beforePurge?, get?_cycle, get?_cycle, restarts.evaluators,
    SortedMap.get?_mapValues, restarts.purge]
  cases held : running.evaluators.get? alert with
  | none => simp
  | some evaluator =>
    have started := restarts.started alert evaluator held
    constructor
    · exact Evaluator.stored?_cycle_restarted started running.purge fits now id entity
    · exact Evaluator.stored?_cycle_ne_of_sparesAtFirst started running.purge now id

end Restarts

/-- For every validated configuration whose windows are signed words, every run with at
least one cycle after which no observation waits, and every time: what is saved then and
loaded again makes a fresh pipeline that saves the same checkpoints and that, given the same
observations, hands over the same alerts in the same order under the same group keys. After
that cycle it stores what the running pipeline stores, and besides only those of the entities
known before the purge that the first purge after a start spares and a later one does not. -/
theorem restart_changes_no_notification (config : Config) (valid : config.validate = .ok ())
    (fits : (config.firstRunPurgeWindow.toNat : Int) ≤ Int64.maxValue.toInt) :
    ∃ fresh, ofConfig config = .ok fresh ∧
      ∀ (start : Checkpoint) (σ : Type) (sink : Sink σ) (state : σ)
        (commands : List PipelineCommand) (takenAt : Instant) (path : String),
        let running := (Journal.run sink { pipeline := fresh.restore start, sinkState := state }
          commands).pipeline
        (∃ now, .cycle now ∈ commands) → running.waiting = 0 →
        ∃ saved, Checkpoint.load path (.bytes (running.checkpoint takenAt).document) =
            .ok (some saved) ∧
          let restarted := fresh.restore saved
          restarted.checkpoint takenAt = running.checkpoint takenAt ∧
          ∀ (batch : List Observation) (now : Instant),
            let ranOn := batch.foldl observe running
            let resumed := batch.foldl observe restarted
            resumed.handedOver now = ranOn.handedOver now ∧
            ∀ alert id entity,
              ((resumed.cycle now).2.stored? alert id = some entity ↔
                (ranOn.cycle now).2.stored? alert id = some entity ∨
                  fresh.purge.SparesAtFirst now entity ∧
                    ranOn.beforePurge? now alert id = some entity) ∧
              (fresh.purge.SparesAtFirst now entity →
                (ranOn.cycle now).2.stored? alert id ≠ some entity) := by
  have buildable := Config.buildable_of_validate valid
  rcases exists_ofConfig buildable with ⟨fresh, built, -⟩
  refine ⟨fresh, built, ?_⟩
  intro start σ sink state commands takenAt path running cycled idle
  rcases cycled with ⟨time, cycled⟩
  have descends : Descends fresh running := ((Descends.refl fresh).restore start).run sink commands
  have started : running.Started := started_run _ sink cycled
  have blank (id : AlertId) (evaluator : Evaluator)
      (held : fresh.evaluators.get? id = some evaluator) : evaluator.blank = evaluator := by
    rcases (get?_of_ofConfig buildable.distinct built).1 id evaluator held with
      ⟨definition, -, -, builtEvaluator⟩
    exact Evaluator.blank_of_ofDefinition builtEvaluator
  have restarts := restarts_restore_checkpoint descends blank started idle takenAt
  refine ⟨running.checkpoint takenAt, Checkpoint.load_document rfl path,
    restarts.checkpoint_eq takenAt, ?_⟩
  intro batch now ranOn resumed
  have later := restarts.observeAll batch
  have purge : ranOn.purge = fresh.purge := (descends.observeAll batch).purge
  have window : fresh.purge.firstRunWindow = config.firstRunPurgeWindow :=
    (Config.windows_of_purgePolicy (purgePolicy_of_ofConfig built)).2
  have bounded : (ranOn.purge.firstRunWindow.toNat : Int) ≤ Int64.maxValue.toInt := by
    rw [purge, window]
    exact fits
  refine ⟨later.handedOver_eq now, ?_⟩
  intro alert id entity
  have stored := later.stored?_cycle bounded now alert id entity
  rw [purge] at stored
  exact stored

/-- A pipeline that raised an alert and was restarted repeats it when the running one would. -/
theorem restart_changes_no_notification_nag :
    let definition : AlertDefinition := { id := 7, nagInterval := some 60 }
    let config : Config := { alerts := [definition] }
    let bad (time : Instant) : Observation := ⟨none, 7, ∅, .bad, time⟩
    config.validate = .ok () ∧ (config.firstRunPurgeWindow.toNat : Int) ≤ Int64.maxValue.toInt ∧
      ∃ fresh, ofConfig config = .ok fresh ∧ ∀ sink : Sink Nat,
        let running := (Journal.run sink { pipeline := fresh, sinkState := 0 }
          [.observe (bad 100), .cycle 100]).pipeline
        running.waiting = 0 ∧
        ∃ saved, Checkpoint.load "state.json" (.bytes (running.checkpoint 110).document) =
            .ok (some saved) ∧
          ((fresh.restore saved).observe (bad 170)).handedOver 170 =
            (running.observe (bad 170)).handedOver 170 := by
  intro definition config bad
  have valid : config.validate = .ok () := by decide +kernel
  have fits : (config.firstRunPurgeWindow.toNat : Int) ≤ Int64.maxValue.toInt := by decide
  rcases restart_changes_no_notification config valid fits with ⟨fresh, built, restart⟩
  refine ⟨valid, fits, fresh, built, ?_⟩
  intro sink running
  have idle : running.waiting = 0 := waiting_cycle _ _
  rcases restart ⟨Checkpoint.currentVersion, 0, ∅⟩ Nat sink 0 [.observe (bad 100), .cycle 100] 110
    "state.json" ⟨100, by simp⟩ idle with ⟨saved, loaded, -, resumes⟩
  exact ⟨idle, saved, loaded, (resumes [bad 170] 170).1⟩

end Alerting.Pipeline
