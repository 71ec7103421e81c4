import Alerting.Proofs.Evaluator.Agreement
import Alerting.Proofs.Config.Validation
import Alerting.Proofs.Purge

/-!
# Restarted evaluators

An evaluator that is built anew and takes over the records of another one differs from it in
the marks of the current run and in counting as not yet started. The first cannot be seen by
a cycle, which clears the marks, and the second only by its purge, which spares more.
-/

namespace Alerting.Evaluator

/-- The evaluator with the same settings before anything was done to it. -/
def blank (evaluator : Evaluator) : Evaluator :=
  { evaluator with
    store := .empty evaluator.store.config evaluator.store.policy
    pending := []
    isFirstRun := true }

/-- The evaluator as it is at the start of a run, but before its first cycle. -/
def restarted (evaluator : Evaluator) : Evaluator :=
  { evaluator with store := evaluator.store.newRun, isFirstRun := true }

/-! ## The same settings throughout -/

section Blank

variable (evaluator : Evaluator)

theorem SameSettings.blank_eq {first second : Evaluator} (same : SameSettings first second) :
    first.blank = second.blank := by
  rw [blank, blank, same.alertId, same.namespaceName, same.kind, same.staleness, same.config,
    same.policy]

theorem blank_restore (entries : List EntityRecord) :
    (evaluator.restore entries).blank = evaluator.blank := by
  apply SameSettings.blank_eq
  exact ⟨rfl, rfl, rfl, rfl, Store.config_restore _ _, Store.policy_restore _ _⟩

theorem blank_offer (observation : Observation) :
    (evaluator.offer observation).blank = evaluator.blank :=
  (evaluator.sameSettings_offer observation).blank_eq

theorem blank_cycle (purge : PurgePolicy) (now : Instant) :
    (evaluator.cycle purge now).2.blank = evaluator.blank :=
  (evaluator.sameSettings_cycleUnder now purge.cutoff).blank_eq

/-- An evaluator that was just built is blank. -/
theorem blank_of_ofDefinition {definition : AlertDefinition} {evaluator : Evaluator}
    (built : ofDefinition definition = .ok evaluator) : evaluator.blank = evaluator := by
  rcases ofDefinition_eq_ok built with ⟨-, -, pending, isFirstRun, store⟩
  rw [blank, ← store, ← pending, ← isFirstRun]

/-- With its records, a blank evaluator is the old one, restarted. -/
theorem restore_records_blank (idle : evaluator.pending = []) :
    evaluator.blank.restore evaluator.records = evaluator.restarted := by
  have store := evaluator.store.restore_records
  rw [restarted, ← store, restore, blank, records, idle]

end Blank

/-! ## Restarted evaluators -/

section Restarted

variable (evaluator : Evaluator) (now : Instant)

theorem sameSettings_restarted : SameSettings evaluator.restarted evaluator :=
  ⟨rfl, rfl, rfl, rfl, rfl, rfl⟩

theorem restarted_offer (observation : Observation) :
    (evaluator.offer observation).restarted = evaluator.restarted.offer observation := by
  rw [offer_eq, offer_eq]
  rfl

/-- Up to its purge, a cycle does not depend on marks and on whether it is the first one. -/
theorem evaluateAll_restarted : evaluator.restarted.evaluateAll now = evaluator.evaluateAll now := by
  have same := evaluator.sameSettings_restarted
  have newRun : evaluator.restarted.store.newRun = evaluator.store.newRun := rfl
  have pending : evaluator.restarted.pending = evaluator.pending := rfl
  rw [evaluateAll, evaluateAll, same.applyAll, same.detectMissing, newRun, pending]

theorem alerts_restarted (rule : CutoffRule) :
    (evaluator.restarted.cycleUnder rule now).1.alerts =
      (evaluator.cycleUnder rule now).1.alerts := by
  have split (evaluator : Evaluator) : (evaluator.cycleUnder rule now).1.alerts =
      (evaluator.evaluateAll now).1 ++ (evaluator.evaluateAll now).2.1 := rfl
  rw [split, split, evaluateAll_restarted]

theorem beforePurge_restarted : evaluator.restarted.beforePurge now = evaluator.beforePurge now := by
  rw [beforePurge, beforePurge, evaluateAll_restarted]

/-- After a cycle, a restarted evaluator stores what the running one stores, and the
entities known to it that a first purge spares. -/
theorem stored?_cycle_restarted {evaluator : Evaluator} (started : evaluator.isFirstRun = false)
    (purge : PurgePolicy) (fits : (purge.firstRunWindow.toNat : Int) ≤ Int64.maxValue.toInt)
    (now : Instant) (id : EntityId) (entity : Entity) :
    (evaluator.restarted.cycle purge now).2.store.stored? id = some entity ↔
      (evaluator.cycle purge now).2.store.stored? id = some entity ∨
        purge.SparesAtFirst now entity ∧ (evaluator.beforePurge now).stored? id = some entity := by
  have first : evaluator.restarted.isFirstRun = true := rfl
  rw [cycle, cycle, stored?_cycleUnder, stored?_cycleUnder, beforePurge_restarted, first, started,
    Option.filter_eq_some_iff, Option.filter_eq_some_iff, Bool.not_eq_true', Bool.not_eq_true',
    purge.not_isOlder_firstRun_iff fits now entity]
  constructor
  · rintro ⟨known, kept | spared⟩
    · exact .inl ⟨known, kept⟩
    · exact .inr ⟨spared, known⟩
  · rintro (⟨known, kept⟩ | ⟨spared, known⟩)
    · exact ⟨known, .inl kept⟩
    · exact ⟨known, .inr spared⟩

/-- What a first purge spares, a later one forgets. -/
theorem stored?_cycle_ne_of_sparesAtFirst {evaluator : Evaluator}
    (started : evaluator.isFirstRun = false) (purge : PurgePolicy) (now : Instant) (id : EntityId)
    {entity : Entity} (spared : purge.SparesAtFirst now entity) :
    (evaluator.cycle purge now).2.store.stored? id ≠ some entity := by
  intro stored
  rw [cycle, stored?_cycleUnder, started, Option.filter_eq_some_iff, Bool.not_eq_true'] at stored
  rcases spared with ⟨last, lastSeen, -, older⟩
  have forgotten := Store.isOlder_iff.2 ⟨last, lastSeen, older⟩
  rw [stored.2] at forgotten
  cases forgotten

end Restarted

end Alerting.Evaluator
