import Alerting.Proofs.Evaluator.Agreement
import Mathlib.Data.List.Nodup

/-!
# The order of arrival

Within a cycle, the order in which observations arrive matters only among those about one
entity with one timestamp. Two runs whose batches agree up to such rearrangements leave the
same store after every cycle, so they go on from the same evaluator; the alerts of a cycle
can differ in their order alone, and not even in that if no two timestamps are equal.
-/

namespace Alerting

/-- A cycle and what it is given: the observations in the order of their arrival. -/
structure CycleInput where
  batch : List Observation
  rule : CutoffRule
  now : Instant

/-- A second batch has the observations of a first one, and those about one entity with one
timestamp in the same order. -/
structure CycleInput.Rearranges (identify : Observation → EntityId) (first second : CycleInput) :
    Prop where
  rule : first.rule = second.rule
  now : first.now = second.now
  perm : first.batch.Perm second.batch
  order : ∀ id time,
    first.batch.filter (fun observation =>
        identify observation = id ∧ observation.timestamp = time) =
      second.batch.filter fun observation =>
        identify observation = id ∧ observation.timestamp = time

/-- What a cycle was given, what it brought, and the entities that are stored after it. -/
structure CycleReport where
  batch : List Observation
  outcome : CycleOutcome
  records : List EntityRecord

/-- Two cycles differ at most in the order of arrival and in the order of their alerts. -/
structure CycleReport.SameButForOrder (first second : CycleReport) : Prop where
  records : first.records = second.records
  observed : first.outcome.observed = second.outcome.observed
  missing : first.outcome.missing = second.outcome.missing
  purged : first.outcome.purged = second.outcome.purged
  alerts_perm : first.outcome.alerts.Perm second.outcome.alerts
  alerts_eq : (first.batch.map Observation.timestamp).Nodup →
    first.outcome.alerts = second.outcome.alerts

namespace Evaluator

/-- The evaluator to which a batch arrived since its last cycle. -/
def buffering (evaluator : Evaluator) (batch : List Observation) : Evaluator :=
  batch.foldl observe { evaluator with pending := [] }

/-- Runs one cycle on what it is given. -/
def cycleOn (evaluator : Evaluator) (input : CycleInput) : CycleReport × Evaluator :=
  let (outcome, after) := (evaluator.buffering input.batch).cycleUnder input.rule input.now
  (⟨input.batch, outcome, after.records⟩, after)

/-- Runs cycles, one after the other. -/
def reports (evaluator : Evaluator) : List CycleInput → List CycleReport
  | [] => []
  | input :: rest =>
    let (report, after) := evaluator.cycleOn input
    report :: reports after rest

theorem reports_cons (evaluator : Evaluator) (input : CycleInput) (rest : List CycleInput) :
    evaluator.reports (input :: rest) =
      (evaluator.cycleOn input).1 :: (evaluator.cycleOn input).2.reports rest := rfl

theorem foldl_observe (evaluator : Evaluator) (batch : List Observation) :
    batch.foldl observe evaluator =
      { evaluator with pending := batch.reverse ++ evaluator.pending } := by
  induction batch generalizing evaluator with
  | nil => rfl
  | cons observation rest ih =>
    rw [List.foldl_cons, ih, List.reverse_cons, List.append_assoc]
    rfl

theorem buffering_eq (evaluator : Evaluator) (batch : List Observation) :
    evaluator.buffering batch = { evaluator with pending := batch.reverse } := by
  rw [buffering, foldl_observe, List.append_nil]

/-! ## Batches with one observation for each time -/

/-- With distinct timestamps, only one order is the newest first. -/
theorem newestFirst_congr {first second : List Observation} (perm : first.Perm second)
    (distinct : (first.map Observation.timestamp).Nodup) :
    newestFirst first = newestFirst second := by
  have antisymmetric (earlier later : Observation) (inFirst : earlier ∈ newestFirst first)
      (inSecond : later ∈ newestFirst second) (le : later.timestamp ≤ earlier.timestamp)
      (ge : earlier.timestamp ≤ later.timestamp) : earlier = later := by
    have member := (mem_newestFirst first).1 inFirst
    have otherMember := perm.mem_iff.2 ((mem_newestFirst second).1 inSecond)
    exact List.inj_on_of_nodup_map distinct member otherMember (Int64.le_antisymm ge le)
  have sorted : (newestFirst first).Perm (newestFirst second) :=
    ((List.mergeSort_perm first _).trans perm).trans (List.mergeSort_perm second _).symm
  exact sorted.eq_of_pairwise antisymmetric (pairwise_newestFirst first)
    (pairwise_newestFirst second)

/-! ## Evaluators that agree on all entities -/

section Agreement

variable {first second : Evaluator}

theorem SameSettings.leading (same : SameSettings first second) :
    first.leading = second.leading := by
  funext batch
  induction batch with
  | nil => rfl
  | cons observation rest ih => simp only [Evaluator.leading, same.identify, ih]

variable (agrees : ∀ id, AgreesOn id first second) (now : Instant)
include agrees

theorem afterBatch_eq_of_agreesOn : first.afterBatch now = second.afterBatch now := by
  have same := (agrees 0).toSameSettings
  apply Store.eq_of_slot_eq
  case config => simp only [config_afterBatch, same.config]
  case policy => simp only [policy_afterBatch, same.policy]
  case contains =>
    intro id
    exact (agrees id).contains_afterBatch now
  case slot =>
    intro id
    exact (agrees id).slot_afterBatch now

theorem newRun_eq_of_agreesOn : first.store.newRun = second.store.newRun := by
  have same := (agrees 0).toSameSettings
  apply Store.eq_of_slot_eq
  case config => exact same.config
  case policy => exact same.policy
  case contains =>
    intro id
    exact congrArg Option.isSome (agrees id).stored
  case slot =>
    intro id
    exact (agrees id).slot_newRun

theorem missing_eq_of_agreesOn : first.missing now = second.missing now := by
  rw [missing_eq, missing_eq, afterBatch_eq_of_agreesOn agrees,
    (agrees 0).toSameSettings.detectMissing]

theorem beforePurge_eq_of_agreesOn : first.beforePurge now = second.beforePurge now := by
  rw [beforePurge_eq, beforePurge_eq, afterBatch_eq_of_agreesOn agrees,
    (agrees 0).toSameSettings.detectMissing]

/-- Each entity has one newest observation, whatever the order among different entities. -/
theorem perm_leading_of_agreesOn :
    (first.leading (newestFirst first.pending)).Perm
      (second.leading (newestFirst second.pending)) := by
  have same := (agrees 0).toSameSettings
  rw [← same.leading, List.perm_ext_iff_of_nodup (nodup_map_leading _).of_map
    (nodup_map_leading _).of_map]
  intro observation
  rw [mem_leading, mem_leading, (agrees (first.identify observation)).newest_eq]

theorem perm_live_of_agreesOn : (first.live now).Perm (second.live now) := by
  rw [live_eq, live_eq, ← (agrees 0).toSameSettings.alert?, ← newRun_eq_of_agreesOn agrees]
  exact (perm_leading_of_agreesOn agrees).filterMap _

theorem live_eq_of_agreesOn (same : newestFirst first.pending = newestFirst second.pending) :
    first.live now = second.live now := by
  have settings := (agrees 0).toSameSettings
  rw [live_eq, live_eq, ← settings.alert?, ← settings.leading, ← newRun_eq_of_agreesOn agrees,
    same]

/-- Evaluators that agree on all entities are the same after a cycle. -/
theorem cycleUnder_eq_of_agreesOn (rule : CutoffRule) :
    (first.cycleUnder rule now).2 = (second.cycleUnder rule now).2 := by
  have same := (agrees 0).toSameSettings
  have after (evaluator : Evaluator) : (evaluator.cycleUnder rule now).2 =
      { evaluator with
        store := ((evaluator.beforePurge now).purge (rule now evaluator.isFirstRun)).2
        pending := []
        isFirstRun := false } := rfl
  rw [after, after, beforePurge_eq_of_agreesOn agrees, (agrees 0).isFirstRun, same.alertId,
    same.namespaceName, same.kind, same.staleness]

end Agreement

/-! ## Runs -/

section Runs

variable {evaluator : Evaluator} {first second : CycleInput}

/-- After rearranged batches, evaluators agree on all entities. -/
theorem agreesOn_buffering (rearranged : first.Rearranges evaluator.identify second)
    (id : EntityId) :
    AgreesOn id (evaluator.buffering first.batch) (evaluator.buffering second.batch) := by
  rw [buffering_eq, buffering_eq]
  constructor
  case toSameSettings => exact ⟨rfl, rfl, rfl, rfl, rfl, rfl⟩
  case isFirstRun => rfl
  case stored => rfl
  case waiting =>
    intro time
    have order := rearranged.order id time
    simp only [Bool.decide_and] at order
    simp only [List.filter_reverse]
    exact congrArg List.reverse order

/-- After rearranged batches, the evaluator is the same. -/
theorem snd_cycleOn_eq (rearranged : first.Rearranges evaluator.identify second) :
    (evaluator.cycleOn first).2 = (evaluator.cycleOn second).2 := by
  have after := cycleUnder_eq_of_agreesOn (agreesOn_buffering rearranged) first.now first.rule
  rw [rearranged.rule, rearranged.now] at after
  exact Eq.trans (by rw [cycleOn, rearranged.rule, rearranged.now]) after

/-- A cycle does not change which entity an observation is about. -/
theorem identify_cycleOn (evaluator : Evaluator) (input : CycleInput) :
    (evaluator.cycleOn input).2.identify = evaluator.identify := by
  have kept := ((evaluator.buffering input.batch).sameSettings_cycleUnder input.now
    input.rule).identify
  rw [buffering_eq] at kept
  rw [cycleOn, buffering_eq]
  exact kept

theorem alerts_cycleOn (evaluator : Evaluator) (input : CycleInput) :
    (evaluator.cycleOn input).1.outcome.alerts =
      (evaluator.buffering input.batch).live input.now ++
        (evaluator.buffering input.batch).missing input.now := rfl

theorem observed_cycleOn (evaluator : Evaluator) (input : CycleInput) :
    (evaluator.cycleOn input).1.outcome.observed = input.batch.length := by
  have pending : (evaluator.buffering input.batch).pending = input.batch.reverse := by
    rw [buffering_eq]
  exact (congrArg List.length pending).trans List.length_reverse

/-- Rearranged batches bring the same, but for the order of the alerts. -/
theorem sameButForOrder_cycleOn (rearranged : first.Rearranges evaluator.identify second) :
    (evaluator.cycleOn first).1.SameButForOrder (evaluator.cycleOn second).1 := by
  have agrees := agreesOn_buffering rearranged
  have missing : (evaluator.buffering first.batch).missing first.now =
      (evaluator.buffering second.batch).missing second.now :=
    rearranged.now ▸ missing_eq_of_agreesOn agrees first.now
  constructor
  case records => exact congrArg records (snd_cycleOn_eq rearranged)
  case observed => rw [observed_cycleOn, observed_cycleOn, rearranged.perm.length_eq]
  case missing => exact congrArg List.length missing
  case purged =>
    have purge (input : CycleInput) : (evaluator.cycleOn input).1.outcome.purged =
        (((evaluator.buffering input.batch).beforePurge input.now).purge
          (input.rule input.now (evaluator.buffering input.batch).isFirstRun)).1 := rfl
    rw [purge, purge, beforePurge_eq_of_agreesOn agrees, (agrees 0).isFirstRun, rearranged.rule,
      rearranged.now]
  case alerts_perm =>
    rw [alerts_cycleOn, alerts_cycleOn, missing, ← rearranged.now]
    exact (perm_live_of_agreesOn agrees first.now).append_right _
  case alerts_eq =>
    intro distinct
    have sorted : newestFirst (evaluator.buffering first.batch).pending =
        newestFirst (evaluator.buffering second.batch).pending := by
      rw [buffering_eq, buffering_eq]
      apply newestFirst_congr
      · exact (List.reverse_perm _).trans (rearranged.perm.trans (List.reverse_perm _).symm)
      · rw [List.map_reverse, List.nodup_reverse]
        exact distinct
    rw [alerts_cycleOn, alerts_cycleOn, missing, ← rearranged.now,
      live_eq_of_agreesOn agrees first.now sorted]

end Runs

/-- Take two runs of cycles whose batches hold the same observations, those about one entity
with one timestamp in the same order. After every cycle the stored entities are the same in
both runs, and so are the numbers of observed, missing and purged ones; the alerts of the
cycle are the same up to their order, which is the same too if the timestamps are distinct. -/
theorem arrival_order_is_irrelevant (evaluator : Evaluator) (first second : List CycleInput)
    (rearranged : List.Forall₂ (CycleInput.Rearranges evaluator.identify) first second) :
    List.Forall₂ CycleReport.SameButForOrder (evaluator.reports first)
      (evaluator.reports second) := by
  generalize named : evaluator.identify = identify at rearranged
  induction rearranged generalizing evaluator with
  | nil => exact .nil
  | @cons input other _ _ head _ ih =>
    subst named
    rw [reports_cons, reports_cons, ← snd_cycleOn_eq head]
    apply List.Forall₂.cons
    · exact sameButForOrder_cycleOn head
    · apply ih
      exact identify_cycleOn evaluator input

/-- Of two observations about one entity the newer one decides, also if it came first. -/
theorem arrival_order_is_irrelevant_swapped :
    let store := Store.empty ⟨.never, true⟩ TransitionRules.unhealthyOnly.policy
    let evaluator : Evaluator := ⟨7, "prod", .metric, store, none, [], true⟩
    let older : Observation := ⟨none, 7, ∅, .good, 90⟩
    let newer : Observation := ⟨none, 7, ∅, .bad, 100⟩
    let rule : CutoffRule := fun now _ => now.ago 60
    let first : CycleInput := ⟨[newer, older], rule, 100⟩
    let second : CycleInput := ⟨[older, newer], rule, 100⟩
    first.Rearranges evaluator.identify second ∧
      ((evaluator.cycleOn second).1.outcome.alerts.map Alert.severity = [.bad]) ∧
      (evaluator.cycleOn first).1.outcome.alerts = (evaluator.cycleOn second).1.outcome.alerts ∧
      (evaluator.cycleOn first).1.records = (evaluator.cycleOn second).1.records := by
  intro store evaluator older newer rule first second
  have rearranged : first.Rearranges evaluator.identify second := by
    refine ⟨rfl, rfl, List.Perm.swap _ _ _, ?_⟩
    intro id time
    by_cases at100 : time = 100
    · subst at100
      simp [first, second, older, newer, List.filter_cons]
    · simp [first, second, older, newer, List.filter_cons, Ne.symm at100]
  have run := evaluator.arrival_order_is_irrelevant [first] [second] (.cons rearranged .nil)
  rcases List.forall₂_cons.1 run with ⟨same, -⟩
  refine ⟨rearranged, ?_, same.alerts_eq (by decide), same.records⟩
  have sorted : newestFirst [newer, older] = [newer, older] :=
    List.mergeSort_of_pairwise (by decide)
  have pending : (evaluator.buffering second.batch).pending = [newer, older] := rfl
  have missing : (evaluator.buffering second.batch).missing second.now = [] := rfl
  rw [alerts_cycleOn, live_eq, missing, List.append_nil, pending, sorted]
  decide +kernel

end Evaluator

end Alerting
