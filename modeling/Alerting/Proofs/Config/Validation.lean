import Alerting.Config.Validation
import Alerting.Pipeline
import Alerting.Proofs.SortedMap
import Mathlib.Data.List.Nodup

/-!
# What a validated configuration promises

A configuration that passes validation can be built: its settings make a pipeline, and
its alerts have distinct ids, so that each of them has an evaluator of its own.
-/

namespace Alerting

theorem bind_eq_ok {ε α β : Type} {first : Except ε α} {next : α → Except ε β} {result : β} :
    (first >>= next) = .ok result ↔ ∃ value, first = .ok value ∧ next value = .ok result := by
  cases first <;> simp [bind, Except.bind]

/-- A check that is passed leaves nothing but the rest to be done. -/
theorem check_bind_eq_ok {ε β : Type} {check : Except ε Unit} {next : Except ε β} {result : β} :
    (check >>= fun _ => next) = .ok result ↔ check = .ok () ∧ next = .ok result := by
  cases check <;> simp [bind, Except.bind]

theorem mapError_eq_ok {ε ζ α : Type} {attempt : Except ε α} {name : ε → ζ} {result : α} :
    attempt.mapError name = .ok result ↔ attempt = .ok result := by
  cases attempt <;> simp [Except.mapError]

theorem toOption_eq_some {ε α : Type} {attempt : Except ε α} {result : α} :
    attempt.toOption = some result ↔ attempt = .ok result := by
  cases attempt <;> simp [Except.toOption]

namespace AlertDefinition

/-- A definition that passes its check has usable settings. -/
theorem of_validate {definition : AlertDefinition} (valid : definition.validate = .ok ()) :
    (∃ config, definition.storeConfig = .ok config) ∧
      ∃ staleness, definition.stalenessLimit = .ok staleness := by
  rcases bind_eq_ok.1 valid with ⟨config, configured, rest⟩
  rcases bind_eq_ok.1 rest with ⟨staleness, limited, -⟩
  exact ⟨⟨config, configured⟩, ⟨staleness, limited⟩⟩

end AlertDefinition

namespace Config

/-- Definitions that pass the check have distinct ids, new ones at that, and pass theirs. -/
theorem of_validateAlerts {seen : List AlertId} {alerts : List AlertDefinition}
    (valid : validateAlerts seen alerts = .ok ()) :
    (alerts.map AlertDefinition.id).Nodup ∧
      ∀ definition ∈ alerts, definition.id ∉ seen ∧ definition.validate = .ok () := by
  induction alerts generalizing seen with
  | nil => simp
  | cons definition rest ih =>
    rw [validateAlerts] at valid
    by_cases known : seen.contains definition.id = true
    · rw [if_pos known] at valid
      cases valid
    · rw [if_neg known] at valid
      rcases bind_eq_ok.1 valid with ⟨_, passes, others⟩
      rcases ih others with ⟨distinct, new⟩
      refine ⟨List.nodup_cons.2 ⟨?_, distinct⟩, ?_⟩
      · intro member
        rcases List.mem_map.1 member with ⟨other, inRest, same⟩
        exact (new other inRest).1 (same ▸ List.mem_cons_self)
      · intro other member
        rcases List.mem_cons.1 member with rfl | inRest
        · exact ⟨fun inSeen => known (List.contains_iff_mem.2 inSeen), passes⟩
        · rcases new other inRest with ⟨notSeen, otherPasses⟩
          exact ⟨fun inSeen => notSeen (List.mem_cons_of_mem _ inSeen), otherPasses⟩

/-- What a pipeline is built from. -/
structure Buildable (config : Config) : Prop where
  frequency : ∃ frequency, config.frequency = .ok frequency
  purgePolicy : ∃ policy, config.purgePolicy = .ok policy
  distinct : (config.alerts.map AlertDefinition.id).Nodup
  alerts : ∀ definition ∈ config.alerts, definition.validate = .ok ()

theorem buildable_of_validate {config : Config} (valid : config.validate = .ok ()) :
    config.Buildable := by
  rcases bind_eq_ok.1 valid with ⟨_, -, workers⟩
  rcases bind_eq_ok.1 workers with ⟨_, -, queue⟩
  rcases bind_eq_ok.1 queue with ⟨_, -, checkpoint⟩
  have flushing : (do
      let _ ← config.frequency
      let _ ← config.purgePolicy
      validateAlerts [] config.alerts) = .ok () := by
    cases interval : config.checkpointInterval with
    | none =>
      rw [interval] at checkpoint
      exact checkpoint
    | some seconds =>
      rw [interval] at checkpoint
      rcases bind_eq_ok.1 checkpoint with ⟨_, -, rest⟩
      exact rest
  rcases bind_eq_ok.1 flushing with ⟨frequency, frequent, purging⟩
  rcases bind_eq_ok.1 purging with ⟨policy, purges, alerts⟩
  rcases of_validateAlerts alerts with ⟨distinct, definitions⟩
  exact ⟨⟨frequency, frequent⟩, ⟨policy, purges⟩, distinct,
    fun definition member => (definitions definition member).2⟩

/-- A definition has the grouping rules that it names. -/
theorem Buildable.get?_groupingRules {config : Config} (buildable : config.Buildable)
    {definition : AlertDefinition} (member : definition ∈ config.alerts) :
    config.groupingRules.get? definition.id = definition.groupBy := by
  have distinct : ((config.alerts.filterMap fun definition =>
      definition.groupBy.map fun names => (definition.id, names)).map Prod.fst).Nodup := by
    refine List.pairwise_map.2 (List.pairwise_filterMap.2 ?_)
    apply (List.pairwise_map.1 buildable.distinct).imp
    intro first second different firstRules firstSome secondRules secondSome
    rcases Option.map_eq_some_iff.1 firstSome with ⟨_, -, rfl⟩
    rcases Option.map_eq_some_iff.1 secondSome with ⟨_, -, rfl⟩
    exact different
  apply Option.ext
  intro names
  rw [groupingRules, SortedMap.get?_ofList distinct, List.mem_filterMap]
  constructor
  · rintro ⟨other, otherMember, named⟩
    rcases Option.map_eq_some_iff.1 named with ⟨given, groupBy, same⟩
    rcases Prod.mk.inj same with ⟨otherId, rfl⟩
    obtain rfl : other = definition :=
      List.inj_on_of_nodup_map buildable.distinct otherMember member otherId
    exact groupBy
  · intro groupBy
    exact ⟨definition, member, by simp [groupBy]⟩

/-- A setting of zero is rejected. -/
theorem ne_zero_of_requirePositive {value : UInt64} {error : ConfigError}
    (positive : requirePositive value error = .ok ()) : value ≠ 0 := by
  intro zero
  rw [requirePositive, if_pos zero] at positive
  cases positive

/-- The settings of which none is zero. -/
structure Positive (config : Config) : Prop where
  evaluationInterval : config.evaluationInterval ≠ 0
  workers : config.workers ≠ 0
  queueCapacity : config.queueCapacity ≠ 0
  checkpointInterval : ∀ interval, config.checkpointInterval = some interval → interval ≠ 0

theorem positive_of_validate {config : Config} (valid : config.validate = .ok ()) :
    config.Positive := by
  rcases check_bind_eq_ok.1 valid with ⟨evaluation, valid⟩
  rcases check_bind_eq_ok.1 valid with ⟨workers, valid⟩
  rcases check_bind_eq_ok.1 valid with ⟨queue, checkpoint⟩
  refine ⟨ne_zero_of_requirePositive evaluation, ne_zero_of_requirePositive workers,
    ne_zero_of_requirePositive queue, ?_⟩
  intro interval given
  rw [given] at checkpoint
  rcases check_bind_eq_ok.1 checkpoint with ⟨positive, -⟩
  exact ne_zero_of_requirePositive positive

end Config

/-! ## Evaluators of definitions -/

/-- An evaluator is built with the settings of its definition and nothing to evaluate yet. -/
theorem Evaluator.ofDefinition_eq_ok {definition : AlertDefinition} {evaluator : Evaluator}
    (built : Evaluator.ofDefinition definition = .ok evaluator) :
    evaluator.alertId = definition.id ∧ evaluator.namespaceName = definition.namespaceName ∧
      evaluator.pending = [] ∧ evaluator.isFirstRun = true ∧
      evaluator.store = .empty evaluator.store.config evaluator.store.policy := by
  rcases bind_eq_ok.1 built with ⟨config, -, rest⟩
  rcases bind_eq_ok.1 rest with ⟨staleness, -, rest⟩
  cases rest
  exact ⟨rfl, rfl, rfl, rfl, rfl⟩

namespace Pipeline

/-- The evaluators of definitions are theirs, one each. -/
theorem of_evaluatorsOf {alerts : List AlertDefinition} {evaluators : List (AlertId × Evaluator)}
    (built : evaluatorsOf alerts = .ok evaluators) :
    evaluators.map Prod.fst = alerts.map AlertDefinition.id ∧
      ∀ entry ∈ evaluators, ∃ definition ∈ alerts,
        definition.id = entry.1 ∧ Evaluator.ofDefinition definition = .ok entry.2 := by
  induction alerts generalizing evaluators with
  | nil =>
    cases built
    exact ⟨rfl, by simp⟩
  | cons definition rest ih =>
    rcases bind_eq_ok.1 built with ⟨evaluator, first, built⟩
    rcases bind_eq_ok.1 built with ⟨others, builtOthers, built⟩
    cases built
    rcases ih builtOthers with ⟨ids, described⟩
    refine ⟨congrArg (definition.id :: ·) ids, ?_⟩
    intro entry member
    rcases List.mem_cons.1 member with rfl | inOthers
    · exact ⟨definition, List.mem_cons_self, rfl, first⟩
    · rcases described entry inOthers with ⟨other, inRest, named, otherBuilt⟩
      exact ⟨other, List.mem_cons_of_mem _ inRest, named, otherBuilt⟩

/-- Definitions that pass their check have evaluators. -/
theorem exists_evaluatorsOf {alerts : List AlertDefinition}
    (valid : ∀ definition ∈ alerts, definition.validate = .ok ()) :
    ∃ evaluators, evaluatorsOf alerts = .ok evaluators := by
  induction alerts with
  | nil => exact ⟨[], rfl⟩
  | cons definition rest ih =>
    rcases AlertDefinition.of_validate (valid definition List.mem_cons_self) with
      ⟨⟨config, configured⟩, ⟨staleness, limited⟩⟩
    obtain ⟨evaluator, built⟩ : ∃ evaluator, Evaluator.ofDefinition definition = .ok evaluator :=
      ⟨_, bind_eq_ok.2 ⟨config, configured, bind_eq_ok.2 ⟨staleness, limited, rfl⟩⟩⟩
    rcases ih fun other member => valid other (List.mem_cons_of_mem _ member) with
      ⟨others, builtOthers⟩
    exact ⟨_, bind_eq_ok.2 ⟨evaluator, built, bind_eq_ok.2 ⟨others, builtOthers, rfl⟩⟩⟩

end Pipeline

end Alerting
