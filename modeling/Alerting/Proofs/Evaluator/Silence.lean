import Alerting.Proofs.Evaluator.Agreement
import Alerting.Proofs.Config.Validation
import Alerting.Proofs.Purge

/-!
# Silent entities

An entity that stops reporting becomes missing before it is forgotten. Where missing after a
while comes no later than being forgotten, the cutoff of every purge lies behind the deadline
of the search for missing entities that precedes it in the same cycle; so what the purge
removes was observed in that cycle or has been found missing.
-/

namespace Alerting

/-- What is forgotten at some time is stale at that time. -/
theorem PurgePolicy.cutoff_le_deadline (policy : PurgePolicy) (limit : StalenessLimit)
    (le : limit.seconds ≤ policy.window)
    (fits : (policy.firstRunWindow.toNat : Int) ≤ Int64.maxValue.toInt) (now : Instant)
    (isFirstRun : Bool) : policy.cutoff now isFirstRun ≤ limit.deadline now := by
  have later : policy.cutoff now false ≤ limit.deadline now := by
    apply Instant.ago_le_ago le
    have windows := UInt64.le_iff_toNat_le.1 policy.window_le_firstRunWindow
    exact Int.le_trans (Int.ofNat_le.2 windows) fits
  cases isFirstRun with
  | false => exact later
  | true => exact Int64.le_trans (policy.cutoff_firstRun_le fits now) later

namespace Evaluator

/-- The limit and the policy of an evaluator are those of its definition. -/
theorem limit_of_ofDefinition {definition : AlertDefinition} {evaluator : Evaluator}
    (built : ofDefinition definition = .ok evaluator) {seconds : Seconds}
    (missingAfter : definition.missingAfter = some seconds) :
    evaluator.store.policy = definition.transitions.policy ∧
      ∃ limit, evaluator.staleness = some limit ∧ limit.seconds = seconds := by
  rcases bind_eq_ok.1 built with ⟨config, -, rest⟩
  rcases bind_eq_ok.1 rest with ⟨staleness, limited, rest⟩
  cases rest
  refine ⟨rfl, ?_⟩
  rw [AlertDefinition.stalenessLimit, missingAfter] at limited
  simp only [StalenessLimit.ofSeconds] at limited
  by_cases zero : seconds = 0
  · simp [zero] at limited
  · simp only [zero, dif_neg, not_false_eq_true] at limited
    cases limited
    exact ⟨_, rfl, rfl⟩

/-! ## Entities that were not observed -/

section Unobserved

variable {evaluator : Evaluator} {now : Instant} {id : EntityId} {limit : StalenessLimit}

theorem slot_afterBatch_of_unobserved (now : Instant)
    (unobserved : ∀ observation ∈ evaluator.pending, evaluator.identify observation ≠ id) :
    (evaluator.afterBatch now).slot id = evaluator.store.newRun.slot id := by
  apply evaluator.slot_applyAll_of_find?_eq_none now
  rw [List.find?_eq_none]
  intro observation member
  simpa using unobserved observation ((mem_newestFirst _).1 member)

/-- The search for missing entities is all that an unobserved one meets in a cycle. -/
theorem slot_beforePurge_of_unobserved
    (unobserved : ∀ observation ∈ evaluator.pending, evaluator.identify observation ≠ id)
    (limited : evaluator.staleness = some limit) :
    (evaluator.beforePurge now).slot id =
      if limit.isStale now (evaluator.store.entity id) then
        ⟨((evaluator.store.entity id).evaluate evaluator.store.policy
          evaluator.store.config.nagInterval .missing now).2, true⟩
      else evaluator.store.newRun.slot id := by
  have slot := slot_afterBatch_of_unobserved now unobserved
  have entity : (evaluator.afterBatch now).entity id = evaluator.store.entity id :=
    congrArg Slot.entity slot
  have undecided : (evaluator.afterBatch now).isDecided id = false :=
    congrArg Slot.isDecided slot
  rw [beforePurge_eq, detectMissing, limited]
  simp only [StalenessLimit.slot_detect, Store.slot_raise, undecided, entity, slot,
    policy_afterBatch, config_afterBatch, true_and, if_true]

/-- A cycle does not see an unobserved entity. -/
theorem lastSeen_beforePurge_of_unobserved
    (unobserved : ∀ observation ∈ evaluator.pending, evaluator.identify observation ≠ id)
    (limited : evaluator.staleness = some limit) :
    ((evaluator.beforePurge now).entity id).lastSeen = (evaluator.store.entity id).lastSeen := by
  rw [Store.entity_eq_slot, slot_beforePurge_of_unobserved unobserved limited]
  split
  · exact Entity.lastSeen_evaluate _ _ _ _ _
  · rfl

/-- An unobserved entity that a purge removes is stale, if the cutoff is not after the deadline. -/
theorem isStale_of_forgotten {rule : CutoffRule}
    (unobserved : ∀ observation ∈ evaluator.pending, evaluator.identify observation ≠ id)
    (limited : evaluator.staleness = some limit)
    (order : rule now evaluator.isFirstRun ≤ limit.deadline now)
    (stored : (evaluator.beforePurge now).contains id = true)
    (forgotten : (evaluator.cycleUnder rule now).2.store.contains id = false) :
    limit.isStale now (evaluator.store.entity id) = true := by
  have forgets : (evaluator.beforePurge now).Forgets (rule now evaluator.isFirstRun) id :=
    ⟨stored, forgotten⟩
  obtain ⟨last, seen, before⟩ := Store.forgets_iff_lastSeen.1 forgets
  rw [lastSeen_beforePurge_of_unobserved unobserved limited] at seen
  rw [StalenessLimit.isStale, seen, Option.any_some, decide_eq_true_eq]
  exact Int64.lt_of_lt_of_le before order

/-- A stale entity that was not observed and was not missing is told about, if the policy
lets it. -/
theorem exists_mem_missing_of_isStale
    (unobserved : ∀ observation ∈ evaluator.pending, evaluator.identify observation ≠ id)
    (limited : evaluator.staleness = some limit)
    (stale : limit.isStale now (evaluator.store.entity id) = true)
    (present : (evaluator.store.entity id).current ≠ .missing)
    (accepted : evaluator.store.policy (evaluator.store.entity id).current .missing = true) :
    ∃ alert ∈ evaluator.missing now, alert.entity = id ∧ alert.severity = .missing := by
  have slot := slot_afterBatch_of_unobserved now unobserved
  have entity : (evaluator.afterBatch now).entity id = evaluator.store.entity id :=
    congrArg Slot.entity slot
  have change : ((evaluator.afterBatch now).raise id .missing now).1 =
      ⟨(evaluator.store.entity id).current, .missing, false, true⟩ := by
    rw [Store.fst_raise_of_not_isDecided (congrArg Slot.isDecided slot), Entity.evaluate_eq, entity]
    simp [Entity.origin, Entity.notifies, Ne.symm present, accepted]
  rcases (Option.any_eq_true _ _).1 stale with ⟨last, seen, -⟩
  have reported : (⟨id, (evaluator.store.entity id).tags, last,
      ((evaluator.afterBatch now).raise id .missing now).1⟩ : MissingEntity) ∈
      (limit.detect (evaluator.afterBatch now) now).1 := by
    rw [StalenessLimit.mem_detect, entity, change]
    exact ⟨stale, seen, rfl, rfl, rfl⟩
  rw [missing_eq, detectMissing, limited]
  refine ⟨_, List.mem_map_of_mem reported, rfl, ?_⟩
  rw [alertOf, change]

end Unobserved

/-- Let entities be missing after a silence no longer than the window after which they are
forgotten, both being signed words. Then whatever a cycle forgets was observed in that cycle
or is missing just before the purge; and if it was neither observed in the cycle nor missing
before, and missing entities are notified about, then the cycle tells that it is missing. -/
theorem forgotten_only_after_missing (definition : AlertDefinition) {fresh : Evaluator}
    (built : ofDefinition definition = .ok fresh) (evaluator : Evaluator)
    (same : SameSettings evaluator fresh) (seconds : Seconds)
    (missingAfter : definition.missingAfter = some seconds) (purge : PurgePolicy)
    (le : seconds ≤ purge.window)
    (fits : (purge.firstRunWindow.toNat : Int) ≤ Int64.maxValue.toInt) (now : Instant)
    (id : EntityId) (stored : (evaluator.beforePurge now).contains id = true)
    (forgotten : (evaluator.cycle purge now).2.store.contains id = false) :
    ((∃ observation ∈ evaluator.pending, evaluator.identify observation = id) ∨
      ((evaluator.beforePurge now).entity id).current = .missing) ∧
    ((∀ observation ∈ evaluator.pending, evaluator.identify observation ≠ id) →
      (evaluator.store.entity id).current ≠ .missing → definition.transitions.onMissing = true →
      ∃ alert ∈ (evaluator.cycle purge now).1.alerts,
        alert.entity = id ∧ alert.severity = .missing) := by
  rcases limit_of_ofDefinition built missingAfter with ⟨policy, limit, limited, rfl⟩
  rw [← same.policy] at policy
  rw [← same.staleness] at limited
  have order := purge.cutoff_le_deadline limit le fits now evaluator.isFirstRun
  have stale (unobserved : ∀ observation ∈ evaluator.pending,
      evaluator.identify observation ≠ id) :
      limit.isStale now (evaluator.store.entity id) = true :=
    isStale_of_forgotten unobserved limited order stored forgotten
  constructor
  · by_cases observed : ∃ observation ∈ evaluator.pending, evaluator.identify observation = id
    · exact .inl observed
    · have unobserved : ∀ observation ∈ evaluator.pending,
          evaluator.identify observation ≠ id :=
        fun observation member named => observed ⟨observation, member, named⟩
      right
      rw [Store.entity_eq_slot, slot_beforePurge_of_unobserved unobserved limited,
        if_pos (stale unobserved)]
      exact Entity.current_evaluate _ _ _ _ _
  · intro unobserved present notifies
    have accepted :
        evaluator.store.policy (evaluator.store.entity id).current .missing = true := by
      rw [policy]
      exact notifies
    rcases exists_mem_missing_of_isStale unobserved limited (stale unobserved) present accepted with
      ⟨alert, member, about⟩
    exact ⟨alert, List.mem_append_right _ member, about⟩

/-- With equal windows, an entity that was last seen one second too early becomes missing and
is forgotten in one cycle, and the cycle tells so. -/
theorem forgotten_only_after_missing_same_cycle :
    let definition : AlertDefinition := { id := 7, missingAfter := some 60 }
    let purge : PurgePolicy := ⟨60, 60, by decide, by decide⟩
    ∃ fresh, ofDefinition definition = .ok fresh ∧
      let evaluator := fresh.restore [{ entity := 5, current := some .bad, lastSeen := some 100 }]
      SameSettings evaluator fresh ∧ (evaluator.beforePurge 161).contains 5 = true ∧
        (evaluator.cycle purge 161).2.store.contains 5 = false ∧
        ((evaluator.beforePurge 161).entity 5).current = .missing ∧
        ∃ alert ∈ (evaluator.cycle purge 161).1.alerts,
          alert.entity = 5 ∧ alert.severity = .missing := by
  intro definition purge
  obtain ⟨fresh, built⟩ : ∃ fresh, ofDefinition definition = .ok fresh := ⟨_, rfl⟩
  refine ⟨fresh, built, ?_⟩
  intro evaluator
  have same : SameSettings evaluator fresh :=
    ⟨rfl, rfl, rfl, rfl, Store.config_restore _ _, Store.policy_restore _ _⟩
  obtain ⟨stored, forgotten, idle, present⟩ : (evaluator.beforePurge 161).contains 5 = true ∧
      (evaluator.cycle purge 161).2.store.contains 5 = false ∧ evaluator.pending = [] ∧
      (evaluator.store.entity 5).current ≠ .missing := by
    cases built
    decide +kernel
  have unobserved : ∀ observation ∈ evaluator.pending, evaluator.identify observation ≠ 5 := by
    simp [idle]
  rcases forgotten_only_after_missing definition built evaluator same 60 rfl purge (by decide)
    (by decide) 161 5 stored forgotten with ⟨observed | missing, told⟩
  · rcases observed with ⟨observation, member, named⟩
    exact absurd named (unobserved observation member)
  · exact ⟨same, stored, forgotten, missing, told unobserved present rfl⟩

end Evaluator

end Alerting
