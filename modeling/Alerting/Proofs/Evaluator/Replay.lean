import Alerting.Proofs.Evaluator.ArrivalOrder
import Alerting.Proofs.Evaluator.Restart

/-!
# Replayed batches

Input that is delivered again says nothing new. The newest observation about an entity is
still the newest one, the entity has its severity already and was seen at its time or later;
so nothing about the entity changes but the time of its last notification, and whoever is
told is told once more about a severity that lasts. A restart before the second delivery is
no exception, since the records keep all of this.
-/

namespace Alerting

namespace Entity

variable (policy : TransitionPolicy) (interval : NagInterval) (entity : Entity) (now : Instant)

/-- A severity that lasts changes the timer alone. -/
theorem snd_evaluate_current :
    (entity.evaluate policy interval entity.current now).2 =
      { entity with nagTimestamp := entity.timer policy interval entity.current now } := by
  rw [evaluate_eq]
  simp [origin]

/-- Without an interval a severity that lasts is not told about. -/
theorem notifies_never_current :
    entity.notifies policy .never entity.current now = false := by
  simp [notifies, NagInterval.isDue]

variable (preservesIdentity : Bool) (tags : Tags) (seen : Instant) (new : Severity)

/-- An entity that has the severity of an observation and that was seen by it. -/
structure SettledBy (preservesIdentity : Bool) (observation : Observation) (entity : Entity) :
    Prop where
  current : entity.current = observation.severity
  seen : entity.see preservesIdentity observation.tags observation.timestamp = entity

/-- A sighting that has led to an evaluation is no news afterwards. -/
theorem see_evaluate_see :
    let settled := ((entity.see preservesIdentity tags seen).evaluate policy interval new now).2
    settled.see preservesIdentity tags seen = settled := by
  intro settled
  have lastSeen : settled.lastSeen = some (entity.lastSeen.elim seen fun last => max last seen) :=
    (lastSeen_evaluate _ _ _ _ _).trans (lastSeen_see _ _ _ _)
  apply see_eq_self lastSeen
  · cases entity.lastSeen with
    | none => exact Int64.le_refl _
    | some last => exact le_max last seen
  · intro preserves
    rw [show settled.tags = _ from tags_evaluate _ _ _ _ _, see, preserves]
    cases entity.tags <;> simp

end Entity

namespace Evaluator

/-! ## Going on after a cycle -/

/-- An evaluator that goes on from what another one stores: that one itself, or one that
its definition builds anew and that takes over its records. -/
inductive ContinuedBy (evaluator : Evaluator) : Evaluator → Prop
  | running : ContinuedBy evaluator evaluator
  | restarted {definition : AlertDefinition} {fresh : Evaluator}
      (built : ofDefinition definition = .ok fresh) (same : SameSettings evaluator fresh) :
      ContinuedBy evaluator (fresh.restore evaluator.records)

theorem ContinuedBy.eq_or_eq_restarted {evaluator next : Evaluator}
    (continued : evaluator.ContinuedBy next) (idle : evaluator.pending = []) :
    next = evaluator ∨ next = evaluator.restarted := by
  cases continued with
  | running => exact .inl rfl
  | restarted built same =>
    right
    rw [← blank_of_ofDefinition built, ← same.blank_eq, restore_records_blank evaluator idle]

/-- Up to its purge, a cycle does not tell who goes on. -/
theorem ContinuedBy.evaluateAll_buffering {evaluator next : Evaluator}
    (continued : evaluator.ContinuedBy next) (idle : evaluator.pending = [])
    (batch : List Observation) (now : Instant) :
    (next.buffering batch).evaluateAll now = (evaluator.buffering batch).evaluateAll now := by
  rcases continued.eq_or_eq_restarted idle with rfl | rfl
  · rfl
  · have restarted : evaluator.restarted.buffering batch = (evaluator.buffering batch).restarted := by
      rw [buffering_eq, buffering_eq]
      rfl
    rw [restarted, evaluateAll_restarted]

section Kept

variable (evaluator : Evaluator) (now : Instant) {id : EntityId}

/-- What a purge does not remove it leaves as it was. -/
theorem entity_cycleUnder_of_contains {rule : CutoffRule}
    (kept : (evaluator.cycleUnder rule now).2.store.contains id = true) :
    (evaluator.cycleUnder rule now).2.store.entity id = (evaluator.beforePurge now).entity id := by
  rw [Store.contains_eq_stored?, Option.isSome_iff_exists] at kept
  rcases kept with ⟨entity, stored⟩
  have before := stored
  rw [stored?_cycleUnder, Option.filter_eq_some_iff] at before
  rw [Store.entity_eq_stored?, Store.entity_eq_stored?, stored, before.1]

/-- Up to its purge, a cycle removes nothing. -/
theorem contains_beforePurge_of_contains (stored : evaluator.store.contains id = true) :
    (evaluator.beforePurge now).contains id = true := by
  have newRun : evaluator.store.newRun.contains id = true := stored
  rw [beforePurge_eq, contains_detectMissing, afterBatch, contains_applyAll, newRun, Bool.or_true]

end Kept

/-! ## The second delivery -/

section Replay

variable {evaluator : Evaluator} {batch : List Observation} {id : EntityId}
  {newest : Observation} {now : Instant}

/-- What waits does not bear on the settings. -/
theorem sameSettings_buffering (evaluator : Evaluator) (batch : List Observation) :
    SameSettings (evaluator.buffering batch) evaluator := by
  rw [buffering_eq]
  exact ⟨rfl, rfl, rfl, rfl, rfl, rfl⟩

/-- Which observation of a batch is the newest depends on how entities are identified. -/
theorem isNewest_buffering_congr {other : Evaluator} (same : SameSettings other evaluator)
    (isNewest : (evaluator.buffering batch).IsNewest id newest) :
    (other.buffering batch).IsNewest id newest := by
  rw [buffering_eq] at isNewest ⊢
  simpa only [IsNewest, arrivals, identify, same.alertId, same.namespaceName] using isNewest

/-- A cycle settles the observed entities. -/
theorem settledBy_beforePurge (isNewest : evaluator.IsNewest id newest) :
    ((evaluator.beforePurge now).entity id).SettledBy evaluator.store.config.preservesIdentity
      newest where
  current := current_beforePurge isNewest
  seen := by
    rw [Store.entity_eq_slot, slot_beforePurge isNewest]
    exact Entity.see_evaluate_see _ _ _ _ _ _ _ _

/-- The newest observation changes nothing but the timer of an entity that it settled. -/
theorem entity_beforePurge_of_settledBy (isNewest : evaluator.IsNewest id newest)
    (settled : (evaluator.store.entity id).SettledBy evaluator.store.config.preservesIdentity
      newest) :
    ∃ timer, (evaluator.beforePurge now).entity id =
      { evaluator.store.entity id with nagTimestamp := timer } := by
  rw [Store.entity_eq_slot, slot_beforePurge isNewest]
  simp only [settled.seen]
  rw [← settled.current, Entity.snd_evaluate_current]
  exact ⟨_, rfl⟩

/-- Whoever is told about an entity that its newest observation has settled is told again. -/
theorem isNag_of_settledBy (isNewest : evaluator.IsNewest id newest)
    (settled : (evaluator.store.entity id).SettledBy evaluator.store.config.preservesIdentity
      newest) {alert : Alert}
    (member : alert ∈ evaluator.live now ++ evaluator.missing now) (about : alert.entity = id) :
    alert.isNag = true ∧ evaluator.store.config.nagInterval ≠ .never := by
  have notified := (exists_mem_alerts_iff isNewest).1 ⟨alert, member, about⟩
  constructor
  · rcases mem_live.1 (mem_live_of_mem_alerts isNewest member about) with ⟨other, isOther, called⟩
    rw [about] at isOther
    obtain rfl := isNewest.unique isOther
    obtain rfl := isNewest.identify_eq
    simp only [alert?, Option.ite_none_right_eq_some, Option.some.injEq] at called
    rw [← called.2, alertOf, Store.fst_raise_of_not_isDecided (Store.isDecided_newRun _ _),
      Entity.evaluate_eq]
    simp only [Store.entity_newRun, Bool.and_eq_true]
    exact ⟨decide_eq_true settled.current.symm, notified⟩
  · intro never
    rw [never, ← settled.current, Entity.notifies_never_current] at notified
    cases notified

end Replay

/-- Evaluate a batch, go on with or without a restart, and evaluate the same batch again,
whatever the times of the two cycles are. About an observed entity that the first cycle did
not forget, the second one tells nothing but a repeat, and that only if there is a nag
interval; and up to its purge it leaves the severities of the entity, its last sighting and
its tags as they were. -/
theorem replay_raises_only_repeats (evaluator : Evaluator) (batch : List Observation)
    (rule : CutoffRule) (first second : Instant) {next : Evaluator}
    (continued : ((evaluator.buffering batch).cycleUnder rule first).2.ContinuedBy next) :
    let after := ((evaluator.buffering batch).cycleUnder rule first).2
    let replayed := next.buffering batch
    ∀ observation ∈ batch, after.store.contains (evaluator.identify observation) = true →
      let id := evaluator.identify observation
      let held := after.store.entity id
      let left := (replayed.beforePurge second).entity id
      (∀ alert ∈ (replayed.cycleUnder rule second).1.alerts, alert.entity = id →
        alert.isNag = true ∧ evaluator.store.config.nagInterval ≠ .never) ∧
      (replayed.beforePurge second).contains id = true ∧
      left.current = held.current ∧ left.previous = held.previous ∧
      left.lastSeen = held.lastSeen ∧ left.tags = held.tags := by
  intro after replayed observation member kept id held left
  -- the same batch arrives at the evaluator that the first cycle left
  have again : replayed.evaluateAll second = (after.buffering batch).evaluateAll second :=
    continued.evaluateAll_buffering rfl batch second
  have beforePurge : replayed.beforePurge second = (after.buffering batch).beforePurge second :=
    congrArg (fun result => result.2.2) again
  have alerts : (replayed.cycleUnder rule second).1.alerts =
      (after.buffering batch).live second ++ (after.buffering batch).missing second :=
    congrArg (fun result => result.1 ++ result.2.1) again
  have settings : SameSettings after (evaluator.buffering batch) :=
    (evaluator.buffering batch).sameSettings_cycleUnder first rule
  have original := settings.trans (evaluator.sameSettings_buffering batch)
  -- one observation is the newest both times, and the first time it settled the entity
  obtain ⟨newest, isNewest⟩ : ∃ newest, (evaluator.buffering batch).IsNewest id newest := by
    have waiting : observation ∈ (evaluator.buffering batch).pending := by
      simpa [buffering_eq] using member
    have identified : (evaluator.buffering batch).identify observation = id :=
      congrFun (evaluator.sameSettings_buffering batch).identify observation
    exact identified ▸ exists_isNewest waiting
  have stillNewest : (after.buffering batch).IsNewest id newest :=
    isNewest_buffering_congr original isNewest
  have stored : (after.buffering batch).store = after.store := by rw [buffering_eq]
  have settled : ((after.buffering batch).store.entity id).SettledBy
      (after.buffering batch).store.config.preservesIdentity newest := by
    rw [stored, settings.config, entity_cycleUnder_of_contains _ _ kept]
    exact settledBy_beforePurge isNewest
  refine ⟨?_, ?_, ?_⟩
  · rw [alerts]
    intro alert told about
    have repeated := isNag_of_settledBy stillNewest settled told about
    rw [stored, original.config] at repeated
    exact repeated
  · rw [beforePurge]
    apply contains_beforePurge_of_contains
    rw [stored]
    exact kept
  · rcases entity_beforePurge_of_settledBy stillNewest settled with ⟨timer, unchanged⟩
    have leaves : left = { held with nagTimestamp := timer } := by
      rw [← beforePurge, stored] at unchanged
      exact unchanged
    rw [leaves]
    exact ⟨rfl, rfl, rfl, rfl⟩

/-- After a restart the severity of the newer of two observations is told about once more. -/
theorem replay_raises_only_repeats_restarted :
    let definition : AlertDefinition := { id := 7, nagInterval := some 60 }
    let newer : Observation := ⟨none, 7, ∅, .bad, 100⟩
    let older : Observation := ⟨none, 7, ∅, .good, 90⟩
    let rule : CutoffRule := fun now _ => now.ago 3600
    ∃ fresh, ofDefinition definition = .ok fresh ∧
      let after := ((fresh.buffering [newer, older]).cycleUnder rule 100).2
      let next := fresh.restore after.records
      let replayed := next.buffering [newer, older]
      let id := fresh.identify newer
      after.ContinuedBy next ∧ after.store.contains id = true ∧
        (replayed.cycleUnder rule 170).1.alerts.map Alert.entity = [id] ∧
        (∀ alert ∈ (replayed.cycleUnder rule 170).1.alerts, alert.entity = id →
          alert.isNag = true) ∧
        ((replayed.beforePurge 170).entity id).current = (after.store.entity id).current := by
  intro definition newer older rule
  obtain ⟨fresh, built⟩ : ∃ fresh, ofDefinition definition = .ok fresh := ⟨_, rfl⟩
  refine ⟨fresh, built, ?_⟩
  intro after next replayed id
  have same : SameSettings after fresh :=
    ((fresh.buffering [newer, older]).sameSettings_cycleUnder 100 rule).trans
      (fresh.sameSettings_buffering _)
  have continued : after.ContinuedBy next := .restarted built same
  have sorted : newestFirst [older, newer] = [newer, older] := by
    simp [newestFirst, List.mergeSort, older, newer]
  obtain ⟨kept, told⟩ : after.store.contains id = true ∧
      (replayed.cycleUnder rule 170).1.alerts.map Alert.entity = [id] := by
    cases built
    simp only [after, replayed, next, cycleUnder, evaluateAll, buffering_eq, List.reverse_cons,
      List.reverse_nil, List.nil_append, List.cons_append, sorted]
    decide +kernel
  have quiet := fresh.replay_raises_only_repeats [newer, older] rule 100 170 continued newer
    List.mem_cons_self kept
  refine ⟨continued, kept, told, ?_, quiet.2.2.1⟩
  intro alert member about
  exact (quiet.1 alert member about).1

end Evaluator

end Alerting
