import Alerting.Proofs.Config.Validation
import Alerting.Proofs.Evaluator.Newest
import Alerting.Proofs.Total
import Mathlib.Data.List.Nodup

/-!
# Where observations go

The pipeline of a configuration has one evaluator for each configured alert, and no
operation changes which alerts are served or under which namespaces. So the configuration
alone says which observations are dropped; every other one waits for the next cycle.
-/

namespace Alerting

/-- Whether an observation is taken: its alert is configured, and it names no namespace
other than that of the alert. -/
def Config.accepts (config : Config) (observation : Observation) : Bool :=
  config.alerts.any fun definition =>
    definition.id = observation.alertId &&
      observation.namespaceName.all (· == definition.namespaceName)

/-- Whether an observation is one for a definition: for its alert, and under no namespace other
than its own. -/
def AlertDefinition.accepts (definition : AlertDefinition) (observation : Observation) : Bool :=
  definition.id = observation.alertId &&
    observation.namespaceName.all (· == definition.namespaceName)

/-- Which alert an evaluator serves, and under which namespace. -/
def Evaluator.identity (evaluator : Evaluator) : AlertId × String :=
  (evaluator.alertId, evaluator.namespaceName)

theorem Evaluator.identity_offer (evaluator : Evaluator) (observation : Observation) :
    (evaluator.offer observation).identity = evaluator.identity := by
  rw [offer_eq]
  rfl

namespace Pipeline

/-- The number of observations that wait for the next cycle. -/
def waiting (pipeline : Pipeline) : Nat :=
  pipeline.evaluators.total fun evaluator => evaluator.pending.length

/-- The evaluators are those of the configured alerts. -/
structure Serves (pipeline : Pipeline) (config : Config) : Prop where
  covers : ∀ definition ∈ config.alerts,
    (pipeline.evaluators.get? definition.id).map Evaluator.identity =
      some (definition.id, definition.namespaceName)
  defined : ∀ id, (pipeline.evaluators.get? id).isSome = true →
    ∃ definition ∈ config.alerts, definition.id = id

theorem Serves.congr {first second : Pipeline} {config : Config} (serves : first.Serves config)
    (same : ∀ id, (second.evaluators.get? id).map Evaluator.identity =
      (first.evaluators.get? id).map Evaluator.identity) : second.Serves config := by
  constructor
  · intro definition member
    exact (same definition.id).trans (serves.covers definition member)
  · intro id found
    apply serves.defined id
    rw [← Option.isSome_map (f := Evaluator.identity), ← same id, Option.isSome_map]
    exact found

/-- The evaluators of a pipeline that was just built are those of its definitions. -/
theorem get?_of_ofConfig {config : Config} (distinct : (config.alerts.map AlertDefinition.id).Nodup)
    {pipeline : Pipeline} (built : ofConfig config = .ok pipeline) :
    (∀ id evaluator, pipeline.evaluators.get? id = some evaluator →
      ∃ definition ∈ config.alerts, definition.id = id ∧
        Evaluator.ofDefinition definition = .ok evaluator) ∧
    ∀ definition ∈ config.alerts, ∃ evaluator,
      pipeline.evaluators.get? definition.id = some evaluator := by
  rcases bind_eq_ok.1 built with ⟨evaluators, builtEvaluators, built⟩
  rcases bind_eq_ok.1 built with ⟨frequency, -, built⟩
  rcases bind_eq_ok.1 built with ⟨purge, -, built⟩
  cases built
  rcases of_evaluatorsOf builtEvaluators with ⟨ids, described⟩
  have keys : (evaluators.map Prod.fst).Nodup := ids ▸ distinct
  constructor
  · intro id evaluator held
    exact described _ ((SortedMap.get?_ofList keys).1 held)
  · intro definition member
    have named : definition.id ∈ evaluators.map Prod.fst := by
      rw [ids]
      exact List.mem_map_of_mem member
    rcases List.mem_map.1 named with ⟨⟨id, evaluator⟩, inEvaluators, sameId⟩
    exact ⟨evaluator, (SortedMap.get?_ofList keys).2 (sameId ▸ inEvaluators)⟩

/-- Each definition has its own evaluator in a pipeline that was just built. -/
theorem get?_of_mem_alerts {config : Config}
    (distinct : (config.alerts.map AlertDefinition.id).Nodup) {pipeline : Pipeline}
    (built : ofConfig config = .ok pipeline) {definition : AlertDefinition}
    (member : definition ∈ config.alerts) :
    ∃ evaluator, Evaluator.ofDefinition definition = .ok evaluator ∧
      pipeline.evaluators.get? definition.id = some evaluator := by
  rcases get?_of_ofConfig distinct built with ⟨described, covered⟩
  rcases covered definition member with ⟨evaluator, held⟩
  rcases described _ _ held with ⟨other, otherMember, otherId, builtEvaluator⟩
  obtain rfl : other = definition :=
    List.inj_on_of_nodup_map distinct otherMember member otherId
  exact ⟨evaluator, builtEvaluator, held⟩

/-- A pipeline purges by the policy of its configuration. -/
theorem purgePolicy_of_ofConfig {config : Config} {pipeline : Pipeline}
    (built : ofConfig config = .ok pipeline) : config.purgePolicy = .ok pipeline.purge := by
  rcases bind_eq_ok.1 built with ⟨evaluators, -, built⟩
  rcases bind_eq_ok.1 built with ⟨frequency, -, built⟩
  rcases bind_eq_ok.1 built with ⟨purge, policy, built⟩
  cases built
  exact policy

/-- A grouper starts with the frequency and the rules of its configuration, and empty. -/
theorem grouper_of_ofConfig {config : Config} {pipeline : Pipeline}
    (built : ofConfig config = .ok pipeline) :
    ∃ frequency, config.frequency = .ok frequency ∧
      pipeline.grouper = { frequency, rules := config.groupingRules } := by
  rcases bind_eq_ok.1 built with ⟨evaluators, -, built⟩
  rcases bind_eq_ok.1 built with ⟨frequency, frequent, built⟩
  rcases bind_eq_ok.1 built with ⟨purge, -, built⟩
  cases built
  exact ⟨frequency, frequent, rfl⟩

/-- A pipeline that was just built serves its configuration. -/
theorem serves_of_ofConfig {config : Config}
    (distinct : (config.alerts.map AlertDefinition.id).Nodup) {pipeline : Pipeline}
    (built : ofConfig config = .ok pipeline) : pipeline.Serves config := by
  constructor
  · intro definition member
    rcases get?_of_mem_alerts distinct built member with ⟨evaluator, builtEvaluator, held⟩
    rcases Evaluator.ofDefinition_eq_ok builtEvaluator with ⟨alertId, namespaceName, -⟩
    rw [held, Option.map_some, Evaluator.identity, alertId, namespaceName]
  · intro id found
    rcases Option.isSome_iff_exists.1 found with ⟨evaluator, held⟩
    rcases (get?_of_ofConfig distinct built).1 _ _ held with ⟨definition, member, named, -⟩
    exact ⟨definition, member, named⟩

/-- A pipeline can be built, serves its configuration and holds nothing. -/
theorem exists_ofConfig {config : Config} (buildable : config.Buildable) :
    ∃ pipeline, ofConfig config = .ok pipeline ∧ pipeline.Serves config ∧
      pipeline.waiting = 0 ∧ pipeline.dropped = 0 ∧ pipeline.metrics = {} ∧
      ∃ frequency, pipeline.grouper = { frequency, rules := config.groupingRules } := by
  rcases buildable.frequency with ⟨frequency, frequent⟩
  rcases buildable.purgePolicy with ⟨policy, purges⟩
  rcases exists_evaluatorsOf buildable.alerts with ⟨evaluators, builtEvaluators⟩
  obtain ⟨pipeline, built, rest⟩ : ∃ pipeline, ofConfig config = .ok pipeline ∧
      pipeline.dropped = 0 ∧ pipeline.metrics = {} ∧
      pipeline.grouper = { frequency, rules := config.groupingRules } :=
    ⟨_, bind_eq_ok.2 ⟨evaluators, builtEvaluators, bind_eq_ok.2 ⟨frequency, frequent,
      bind_eq_ok.2 ⟨policy, purges, rfl⟩⟩⟩, rfl, rfl, rfl⟩
  rcases rest with ⟨dropped, metrics, grouper⟩
  refine ⟨pipeline, built, serves_of_ofConfig buildable.distinct built, ?_, dropped, metrics,
    frequency, grouper⟩
  apply sumOf_eq_zero _
  rintro ⟨id, evaluator⟩ member
  rcases (get?_of_ofConfig buildable.distinct built).1 id evaluator
    (SortedMap.mem_toList.1 member) with ⟨definition, -, -, builtEvaluator⟩
  rcases Evaluator.ofDefinition_eq_ok builtEvaluator with ⟨-, -, pending, -⟩
  exact congrArg List.length pending

/-! ## Taking and dropping observations -/

section Observe

variable {pipeline : Pipeline} {config : Config} {observation : Observation}

/-- An observation is taken by the configuration if its alert's evaluator accepts it. -/
theorem Serves.accepts_iff (serves : pipeline.Serves config) :
    config.accepts observation = true ↔
      ∃ evaluator, pipeline.evaluators.get? observation.alertId = some evaluator ∧
        evaluator.accepts observation = true := by
  simp only [Config.accepts, List.any_eq_true, Bool.and_eq_true, decide_eq_true_eq]
  constructor
  · rintro ⟨definition, member, sameId, agrees⟩
    have served := serves.covers definition member
    rw [sameId] at served
    rcases Option.map_eq_some_iff.1 served with ⟨evaluator, held, identity⟩
    rcases Prod.mk.inj identity with ⟨-, namespaceName⟩
    exact ⟨evaluator, held, by rw [Evaluator.accepts, namespaceName]; exact agrees⟩
  · rintro ⟨evaluator, held, accepted⟩
    rcases serves.defined observation.alertId (by simp [held]) with ⟨definition, member, sameId⟩
    have served := serves.covers definition member
    rw [sameId, held] at served
    rcases Prod.mk.inj (Option.some.inj served) with ⟨-, namespaceName⟩
    exact ⟨definition, member, sameId, by rw [← namespaceName]; exact accepted⟩

/-- An observation that is not taken is counted as dropped, and nothing else happens. -/
theorem Serves.observe_of_not_accepts (serves : pipeline.Serves config)
    (refused : config.accepts observation = false) :
    pipeline.observe observation = { pipeline with dropped := pipeline.dropped + 1 } := by
  rw [observe]
  cases held : pipeline.evaluators.get? observation.alertId with
  | none => rfl
  | some evaluator =>
    have notAccepted : ¬ evaluator.accepts observation = true := by
      intro accepted
      rw [serves.accepts_iff.2 ⟨evaluator, held, accepted⟩] at refused
      cases refused
    simp only [if_neg notAccepted]

/-- An observation that is taken waits at the evaluator of its alert. -/
theorem Serves.observe_of_accepts (serves : pipeline.Serves config)
    (taken : config.accepts observation = true) :
    ∃ evaluator, pipeline.evaluators.get? observation.alertId = some evaluator ∧
      pipeline.observe observation =
        { pipeline with
          evaluators :=
            pipeline.evaluators.insert observation.alertId (evaluator.observe observation) } := by
  rcases serves.accepts_iff.1 taken with ⟨evaluator, held, accepted⟩
  refine ⟨evaluator, held, ?_⟩
  rw [observe, held]
  simp only [if_pos accepted]

/-- An observation is offered to the evaluator of its alert. -/
theorem get?_observe (pipeline : Pipeline) (observation : Observation) (id : AlertId) :
    (pipeline.observe observation).evaluators.get? id =
      if id = observation.alertId then (pipeline.evaluators.get? id).map (·.offer observation)
      else pipeline.evaluators.get? id := by
  by_cases same : id = observation.alertId
  · subst same
    cases held : pipeline.evaluators.get? observation.alertId with
    | none => simp [Pipeline.observe, held]
    | some evaluator =>
      by_cases accepted : evaluator.accepts observation
      · simp [Pipeline.observe, held, accepted, Evaluator.offer, SortedMap.get?_insert]
      · simp [Pipeline.observe, held, accepted, Evaluator.offer]
  · cases held : pipeline.evaluators.get? observation.alertId with
    | none => simp [Pipeline.observe, held, same]
    | some evaluator =>
      by_cases accepted : evaluator.accepts observation
      · simp [Pipeline.observe, held, accepted, same, SortedMap.get?_insert]
      · simp [Pipeline.observe, held, accepted, same]

/-- Observations do not change which alerts are served. -/
theorem Serves.observe (serves : pipeline.Serves config) (observation : Observation) :
    (pipeline.observe observation).Serves config := by
  apply serves.congr
  intro id
  rw [get?_observe]
  split
  · rw [Option.map_map]
    apply Option.map_congr
    intro evaluator _
    exact evaluator.identity_offer observation
  · rfl

theorem Serves.observeAll (serves : pipeline.Serves config) (batch : List Observation) :
    (batch.foldl Pipeline.observe pipeline).Serves config := by
  induction batch generalizing pipeline with
  | nil => exact serves
  | cons observation rest ih => exact ih (serves.observe observation)

/-- An observation is dropped if and only if the configuration does not take it. -/
theorem Serves.dropped_observe (serves : pipeline.Serves config) (observation : Observation) :
    (pipeline.observe observation).dropped =
      pipeline.dropped + (!config.accepts observation).toNat := by
  cases taken : config.accepts observation with
  | false => rw [serves.observe_of_not_accepts taken]; rfl
  | true =>
    rcases serves.observe_of_accepts taken with ⟨evaluator, -, after⟩
    rw [after]
    rfl

/-- An observation waits if and only if the configuration takes it. -/
theorem Serves.waiting_observe (serves : pipeline.Serves config) (observation : Observation) :
    (pipeline.observe observation).waiting =
      pipeline.waiting + (config.accepts observation).toNat := by
  cases taken : config.accepts observation with
  | false => rw [serves.observe_of_not_accepts taken]; rfl
  | true =>
    rcases serves.observe_of_accepts taken with ⟨evaluator, held, after⟩
    have law := pipeline.evaluators.total_insert (fun evaluator => evaluator.pending.length)
      observation.alertId (evaluator.observe observation)
    simp only [held, Option.elim_some, Evaluator.observe, List.length_cons] at law
    simp only [after, waiting, Bool.toNat_true, Evaluator.observe]
    omega

/-- An observation concerns the evaluators and the number of dropped observations alone. -/
theorem exists_observe_eq (pipeline : Pipeline) (observation : Observation) :
    ∃ evaluators dropped, pipeline.observe observation = { pipeline with evaluators, dropped } := by
  rw [Pipeline.observe]
  split
  · exact ⟨_, _, rfl⟩
  · split
    · exact ⟨_, _, rfl⟩
    · exact ⟨_, _, rfl⟩

theorem grouper_observe : (pipeline.observe observation).grouper = pipeline.grouper := by
  rcases exists_observe_eq pipeline observation with ⟨_, _, after⟩
  rw [after]

theorem metrics_observe : (pipeline.observe observation).metrics = pipeline.metrics := by
  rcases exists_observe_eq pipeline observation with ⟨_, _, after⟩
  rw [after]

theorem purge_observe : (pipeline.observe observation).purge = pipeline.purge := by
  rcases exists_observe_eq pipeline observation with ⟨_, _, after⟩
  rw [after]

end Observe

end Pipeline

end Alerting
