import Alerting.Proofs.Evaluator.Cycle
import Alerting.Proofs.Store.Membership

/-!
# Evaluators that agree on an entity

What a cycle does to an entity and tells about it depends on the settings, on what is
stored about the entity and on the waiting observations about it, of which only those with
the same timestamp need an order. Two evaluators that agree in this raise the same alerts
about the entity and agree again afterwards, whatever they hold about others.
-/

namespace Alerting.Evaluator

/-- Two evaluators serve one alert under the same settings. -/
structure SameSettings (first second : Evaluator) : Prop where
  alertId : first.alertId = second.alertId
  namespaceName : first.namespaceName = second.namespaceName
  kind : first.kind = second.kind
  staleness : first.staleness = second.staleness
  config : first.store.config = second.store.config
  policy : first.store.policy = second.store.policy

/-- Whether an observation passes a test and was made at a time. -/
def passesAt (test : Observation → Bool) (time : Instant) (observation : Observation) : Bool :=
  test observation && observation.timestamp = time

/-- Two evaluators know the same about an entity: what is stored and, for every time, which
observations wait in which order. -/
structure AgreesOn (id : EntityId) (first second : Evaluator) : Prop
    extends SameSettings first second where
  isFirstRun : first.isFirstRun = second.isFirstRun
  stored : first.store.stored? id = second.store.stored? id
  waiting : ∀ time,
    first.pending.filter (passesAt (first.identify · = id) time) =
      second.pending.filter (passesAt (second.identify · = id) time)

/-! ## The same settings -/

namespace SameSettings

variable {first second : Evaluator}

theorem identify (same : SameSettings first second) : first.identify = second.identify := by
  funext observation
  simp only [Evaluator.identify, same.alertId, same.namespaceName]

theorem alertOf (same : SameSettings first second) : first.alertOf = second.alertOf := by
  funext id tags change now
  simp only [Evaluator.alertOf, same.alertId, same.namespaceName, same.kind]

theorem alert? (same : SameSettings first second) : first.alert? = second.alert? := by
  funext now store observation
  simp only [Evaluator.alert?, same.identify, same.alertOf]

theorem applyAll (same : SameSettings first second) : first.applyAll = second.applyAll := by
  funext now batch store
  induction batch generalizing store with
  | nil => rfl
  | cons observation rest ih =>
    simp only [applyAll_cons, same.alert?, settle, same.identify, ih]

theorem detectMissing (same : SameSettings first second) :
    first.detectMissing = second.detectMissing := by
  funext now store
  simp only [Evaluator.detectMissing, same.staleness, same.alertOf]

end SameSettings

/-! ## The newest of the waiting observations -/

section Newest

variable {test : Observation → Bool} {first second : List Observation}

/-- The newest observation to pass a test is the last received of those that pass at its
time, and none passes at a later time. -/
theorem newest_of_find?_newestFirst {newest : Observation}
    (found : (newestFirst first).find? test = some newest) :
    (first.filter (passesAt test newest.timestamp)).head? = some newest ∧
      ∀ other ∈ first, test other = true → other.timestamp ≤ newest.timestamp := by
  rcases exists_of_find?_newestFirst found with ⟨later, earlier, rfl, passes, strictly, weakly⟩
  constructor
  · have none : later.filter (passesAt test newest.timestamp) = [] := by
      rw [List.filter_eq_nil_iff]
      intro other member both
      simp only [passesAt, Bool.and_eq_true, decide_eq_true_eq] at both
      exact Int64.ne_of_lt (strictly other member both.1) both.2
    simp [none, passesAt, passes]
  · intro other member otherPasses
    rcases List.mem_append.1 member with inLater | here
    · exact Int64.le_of_lt (strictly other inLater otherPasses)
    · rcases List.mem_cons.1 here with rfl | inEarlier
      · exact Int64.le_refl _
      · exact weakly other inEarlier otherPasses

theorem mem_of_filter_passesAt_eq
    (same : ∀ time, first.filter (passesAt test time) = second.filter (passesAt test time))
    {observation : Observation} (member : observation ∈ first) (passes : test observation = true) :
    observation ∈ second := by
  have kept : observation ∈ first.filter (passesAt test observation.timestamp) :=
    List.mem_filter.2 ⟨member, by simp [passesAt, passes]⟩
  rw [same] at kept
  exact (List.mem_filter.1 kept).1

theorem find?_newestFirst_of_eq_some
    (same : ∀ time, first.filter (passesAt test time) = second.filter (passesAt test time))
    {newest : Observation} (found : (newestFirst first).find? test = some newest) :
    (newestFirst second).find? test = some newest := by
  have passes : test newest = true := List.find?_some found
  have member : newest ∈ first := (mem_newestFirst first).1 (List.mem_of_find?_eq_some found)
  cases foundSecond : (newestFirst second).find? test with
  | none =>
    have inSecond := (mem_newestFirst second).2 (mem_of_filter_passesAt_eq same member passes)
    exact absurd passes (List.find?_eq_none.1 foundSecond newest inSecond)
  | some other =>
    have otherPasses : test other = true := List.find?_some foundSecond
    have otherMember : other ∈ second :=
      (mem_newestFirst second).1 (List.mem_of_find?_eq_some foundSecond)
    rcases newest_of_find?_newestFirst found with ⟨head, greatest⟩
    rcases newest_of_find?_newestFirst foundSecond with ⟨otherHead, otherGreatest⟩
    have le := greatest other
      (mem_of_filter_passesAt_eq (fun time => (same time).symm) otherMember otherPasses) otherPasses
    have ge := otherGreatest newest (mem_of_filter_passesAt_eq same member passes) passes
    rw [Int64.le_antisymm le ge, ← same, head] at otherHead
    exact otherHead.symm

/-- Which observation is the newest to pass a test depends on those that pass it, and among
these on the order of those with one timestamp. -/
theorem find?_newestFirst_congr
    (same : ∀ time, first.filter (passesAt test time) = second.filter (passesAt test time)) :
    (newestFirst first).find? test = (newestFirst second).find? test := by
  apply Option.ext
  intro newest
  constructor
  · exact find?_newestFirst_of_eq_some same
  · exact find?_newestFirst_of_eq_some fun time => (same time).symm

end Newest

/-! ## A batch, entity by entity -/

section Batch

variable (evaluator : Evaluator) (now : Instant)

@[simp] theorem policy_applyAll (batch : List Observation) (store : Store) :
    (evaluator.applyAll now batch store).2.policy = store.policy := by
  induction batch generalizing store with
  | nil => rfl
  | cons observation rest ih => simp [applyAll_cons, ih]

@[simp] theorem config_applyAll (batch : List Observation) (store : Store) :
    (evaluator.applyAll now batch store).2.config = store.config := by
  induction batch generalizing store with
  | nil => rfl
  | cons observation rest ih => simp [applyAll_cons, ih]

theorem contains_settle (store : Store) (observation : Observation) (id : EntityId) :
    (evaluator.settle now store observation).contains id =
      (decide (evaluator.identify observation = id) || store.contains id) := by
  rw [settle, Store.contains_raise, Store.contains_see]
  simp [eq_comm]

/-- After a batch, an entity is stored if it was or if it was observed. -/
theorem contains_applyAll (batch : List Observation) (store : Store) (id : EntityId) :
    (evaluator.applyAll now batch store).2.contains id =
      (batch.any (evaluator.identify · = id) || store.contains id) := by
  induction batch generalizing store with
  | nil => rfl
  | cons observation rest ih =>
    simp only [applyAll_cons, ih, contains_settle, List.any_cons]
    cases decide (evaluator.identify observation = id) <;> simp

theorem slot_applyAll_of_find?_eq_none {batch : List Observation} {store : Store} {id : EntityId}
    (unobserved : batch.find? (evaluator.identify · = id) = none) :
    (evaluator.applyAll now batch store).2.slot id = store.slot id := by
  induction batch generalizing store with
  | nil => rfl
  | cons observation rest ih =>
    rw [List.find?_eq_none] at unobserved
    have different : id ≠ evaluator.identify observation := by
      intro same
      exact unobserved observation List.mem_cons_self (by simp [same])
    have others : rest.find? (evaluator.identify · = id) = none :=
      List.find?_eq_none.2 fun other member => unobserved other (List.mem_cons_of_mem _ member)
    rw [applyAll_cons]
    exact (ih others).trans (evaluator.slot_settle_of_ne now store observation different)

/-- What sorted batches do to an undecided entity depends on its slot and on the newest
observations about it. -/
theorem slot_applyAll_congr {first second : List Observation} {store other : Store}
    {id : EntityId} (config : store.config = other.config) (policy : store.policy = other.policy)
    (slot : store.slot id = other.slot id) (undecided : store.isDecided id = false)
    (newest : (newestFirst first).find? (evaluator.identify · = id) =
      (newestFirst second).find? (evaluator.identify · = id)) :
    (evaluator.applyAll now (newestFirst first) store).2.slot id =
      (evaluator.applyAll now (newestFirst second) other).2.slot id := by
  have alsoUndecided : other.isDecided id = false := by
    rw [Store.isDecided_eq_slot, ← slot]
    exact undecided
  cases found : (newestFirst first).find? (evaluator.identify · = id) with
  | none =>
    rw [evaluator.slot_applyAll_of_find?_eq_none now found,
      evaluator.slot_applyAll_of_find?_eq_none now (newest.symm.trans found), slot]
  | some observation =>
    have named : evaluator.identify observation = id := by
      simpa using List.find?_some found
    rw [evaluator.slot_applyAll_of_find?_eq_some now (pairwise_newestFirst first) found undecided,
      evaluator.slot_applyAll_of_find?_eq_some now (pairwise_newestFirst second)
        (newest.symm.trans found) alsoUndecided]
    subst named
    exact evaluator.slot_settle_congr now observation policy config slot

/-- The first observation about an entity stands for it among the first observations. -/
theorem filter_leading (batch : List Observation) (id : EntityId) :
    (evaluator.leading batch).filter (evaluator.identify · = id) =
      (batch.find? (evaluator.identify · = id)).toList := by
  induction batch with
  | nil => rfl
  | cons observation rest ih =>
    rw [leading, List.find?_cons]
    by_cases same : evaluator.identify observation = id
    · subst same
      simp [List.filter_filter]
    · have others : (rest.find? (evaluator.identify · = id)).toList =
          ((evaluator.leading rest).filter fun other =>
            evaluator.identify other ≠ evaluator.identify observation).filter
            (evaluator.identify · = id) := by
        rw [← ih, List.filter_filter]
        apply List.filter_congr
        intro other _
        by_cases here : evaluator.identify other = id
        · simp [here, Ne.symm same]
        · simp [here]
      simp [same, others]

/-- The alerts of a cycle about an observed entity are what its newest observation calls for. -/
theorem filter_live (id : EntityId) :
    (evaluator.live now).filter (·.entity = id) =
      ((newestFirst evaluator.pending).find? (evaluator.identify · = id)).toList.filterMap
        (evaluator.alert? now evaluator.store.newRun) := by
  rw [live_eq, ← filter_leading, List.filter_filterMap, List.filterMap_filter]
  apply List.filterMap_congr
  intro observation _
  cases called : evaluator.alert? now evaluator.store.newRun observation with
  | none => simp
  | some alert =>
    have entity := (alert?_eq_some called).1
    simp [Option.filter, entity]

end Batch

/-! ## Missing entities, one by one -/

section Missing

variable (evaluator : Evaluator) (now : Instant)

/-- A search for missing entities treats an entity by its slot. -/
theorem slot_detectMissing_congr {first second : Store} {id : EntityId}
    (config : first.config = second.config) (policy : first.policy = second.policy)
    (slot : first.slot id = second.slot id) :
    (evaluator.detectMissing now first).2.slot id =
      (evaluator.detectMissing now second).2.slot id := by
  have entity : first.entity id = second.entity id := congrArg Slot.entity slot
  simp only [detectMissing]
  cases evaluator.staleness with
  | none => exact slot
  | some limit =>
    simp only [StalenessLimit.slot_detect, entity, slot,
      (Store.slot_raise_congr policy config slot .missing now).2]

theorem contains_detectMissing (store : Store) (id : EntityId) :
    (evaluator.detectMissing now store).2.contains id = store.contains id := by
  simp only [detectMissing]
  cases evaluator.staleness with
  | none => rfl
  | some limit => exact Store.contains_detect limit store now id

/-- Whether and how a missing entity is told about depends on its slot. -/
theorem filter_detectMissing_congr {first second : Store} {id : EntityId}
    (config : first.config = second.config) (policy : first.policy = second.policy)
    (slot : first.slot id = second.slot id) :
    (evaluator.detectMissing now first).1.filter (·.entity = id) =
      (evaluator.detectMissing now second).1.filter (·.entity = id) := by
  simp only [detectMissing]
  cases evaluator.staleness with
  | none => rfl
  | some limit =>
    simp only [List.filter_map]
    exact congrArg _ (limit.filter_detect_congr config policy slot)

end Missing

/-! ## A cycle -/

section Cycle

variable (evaluator : Evaluator) (now : Instant)

/-- The store of a cycle before its search for missing entities. -/
def afterBatch : Store :=
  (evaluator.applyAll now (newestFirst evaluator.pending) evaluator.store.newRun).2

theorem missing_eq :
    evaluator.missing now = (evaluator.detectMissing now (evaluator.afterBatch now)).1 := rfl

theorem beforePurge_eq :
    evaluator.beforePurge now = (evaluator.detectMissing now (evaluator.afterBatch now)).2 := rfl

@[simp] theorem policy_detectMissing (store : Store) :
    (evaluator.detectMissing now store).2.policy = store.policy := by
  simp only [detectMissing]
  cases evaluator.staleness with
  | none => rfl
  | some limit => exact limit.policy_detect store now

@[simp] theorem config_detectMissing (store : Store) :
    (evaluator.detectMissing now store).2.config = store.config := by
  simp only [detectMissing]
  cases evaluator.staleness with
  | none => rfl
  | some limit => exact limit.config_detect store now

@[simp] theorem policy_afterBatch : (evaluator.afterBatch now).policy = evaluator.store.policy :=
  evaluator.policy_applyAll now _ _

@[simp] theorem config_afterBatch : (evaluator.afterBatch now).config = evaluator.store.config :=
  evaluator.config_applyAll now _ _

@[simp] theorem pending_cycleUnder (rule : CutoffRule) :
    (evaluator.cycleUnder rule now).2.pending = [] := rfl

@[simp] theorem isFirstRun_cycleUnder (rule : CutoffRule) :
    (evaluator.cycleUnder rule now).2.isFirstRun = false := rfl

/-- A cycle keeps the settings. -/
theorem sameSettings_cycleUnder (rule : CutoffRule) :
    SameSettings (evaluator.cycleUnder rule now).2 evaluator where
  alertId := rfl
  namespaceName := rfl
  kind := rfl
  staleness := rfl
  config := (evaluator.config_detectMissing now _).trans (evaluator.config_afterBatch now)
  policy := (evaluator.policy_detectMissing now _).trans (evaluator.policy_afterBatch now)

/-- An offer keeps the settings. -/
theorem sameSettings_offer (observation : Observation) :
    SameSettings (evaluator.offer observation) evaluator := by
  rw [offer_eq]
  exact ⟨rfl, rfl, rfl, rfl, rfl, rfl⟩

/-- After a cycle those entities are stored that its purge did not find too old. -/
theorem stored?_cycleUnder (rule : CutoffRule) (id : EntityId) :
    (evaluator.cycleUnder rule now).2.store.stored? id =
      ((evaluator.beforePurge now).stored? id).filter fun entity =>
        !Store.isOlder (rule now evaluator.isFirstRun) entity :=
  Store.stored?_purge _ _ _

end Cycle

namespace SameSettings

variable {first second third : Evaluator}

theorem symm (same : SameSettings first second) : SameSettings second first where
  alertId := same.alertId.symm
  namespaceName := same.namespaceName.symm
  kind := same.kind.symm
  staleness := same.staleness.symm
  config := same.config.symm
  policy := same.policy.symm

theorem trans (same : SameSettings first second) (next : SameSettings second third) :
    SameSettings first third where
  alertId := same.alertId.trans next.alertId
  namespaceName := same.namespaceName.trans next.namespaceName
  kind := same.kind.trans next.kind
  staleness := same.staleness.trans next.staleness
  config := same.config.trans next.config
  policy := same.policy.trans next.policy

end SameSettings

namespace AgreesOn

variable {id : EntityId} {first second : Evaluator} (now : Instant)

theorem newest_eq (agrees : AgreesOn id first second) :
    (newestFirst first.pending).find? (first.identify · = id) =
      (newestFirst second.pending).find? (first.identify · = id) := by
  apply find?_newestFirst_congr
  intro time
  rw [agrees.waiting time, agrees.identify]

theorem slot_newRun (agrees : AgreesOn id first second) :
    first.store.newRun.slot id = second.store.newRun.slot id := by
  have entity : first.store.entity id = second.store.entity id := by
    rw [Store.entity_eq_stored?, Store.entity_eq_stored?, agrees.stored]
  simp [Store.slot, entity]

theorem slot_afterBatch (agrees : AgreesOn id first second) :
    (first.afterBatch now).slot id = (second.afterBatch now).slot id := by
  rw [afterBatch, afterBatch, ← agrees.applyAll]
  exact first.slot_applyAll_congr now agrees.config agrees.policy agrees.slot_newRun
    (Store.isDecided_newRun _ _) agrees.newest_eq

theorem contains_afterBatch (agrees : AgreesOn id first second) :
    (first.afterBatch now).contains id = (second.afterBatch now).contains id := by
  have observed : (newestFirst first.pending).any (first.identify · = id) =
      (newestFirst second.pending).any (first.identify · = id) := by
    rw [← List.isSome_find?, ← List.isSome_find?, agrees.newest_eq]
  have stored : first.store.newRun.contains id = second.store.newRun.contains id :=
    congrArg Option.isSome agrees.stored
  rw [afterBatch, afterBatch, ← agrees.applyAll, contains_applyAll, contains_applyAll, observed,
    stored]

theorem stored?_beforePurge (agrees : AgreesOn id first second) :
    (first.beforePurge now).stored? id = (second.beforePurge now).stored? id := by
  have slot : (first.beforePurge now).slot id = (second.beforePurge now).slot id := by
    rw [beforePurge_eq, beforePurge_eq, ← agrees.detectMissing]
    exact first.slot_detectMissing_congr now (by simp [agrees.config]) (by simp [agrees.policy])
      (agrees.slot_afterBatch now)
  have contains : (first.beforePurge now).contains id = (second.beforePurge now).contains id := by
    rw [beforePurge_eq, beforePurge_eq, contains_detectMissing, contains_detectMissing,
      agrees.contains_afterBatch]
  have entity : (first.beforePurge now).entity id = (second.beforePurge now).entity id :=
    congrArg Slot.entity slot
  rw [Store.stored?_eq, Store.stored?_eq, contains, entity]

/-- Evaluators that agree on an entity tell the same about it. -/
theorem filter_alerts (agrees : AgreesOn id first second) (rule : CutoffRule) :
    (first.cycleUnder rule now).1.alerts.filter (·.entity = id) =
      (second.cycleUnder rule now).1.alerts.filter (·.entity = id) := by
  have live : (first.live now).filter (·.entity = id) =
      (second.live now).filter (·.entity = id) := by
    rw [filter_live, filter_live, ← agrees.identify, ← agrees.newest_eq]
    apply List.filterMap_congr
    intro observation member
    have named : first.identify observation = id := by
      simpa using List.find?_some (Option.mem_toList.1 member)
    rw [← agrees.alert?]
    exact first.alert?_congr now observation agrees.policy agrees.config
      (named ▸ agrees.slot_newRun)
  have missing : (first.missing now).filter (·.entity = id) =
      (second.missing now).filter (·.entity = id) := by
    rw [missing_eq, missing_eq, ← agrees.detectMissing]
    exact first.filter_detectMissing_congr now (by simp [agrees.config])
      (by simp [agrees.policy]) (agrees.slot_afterBatch now)
  have split (evaluator : Evaluator) : (evaluator.cycleUnder rule now).1.alerts =
      evaluator.live now ++ evaluator.missing now := rfl
  rw [split, split, List.filter_append, List.filter_append, live, missing]

/-- Evaluators that agree on an entity agree on it after a cycle. -/
theorem cycleUnder (agrees : AgreesOn id first second) (rule : CutoffRule) :
    AgreesOn id (first.cycleUnder rule now).2 (second.cycleUnder rule now).2 where
  toSameSettings := (first.sameSettings_cycleUnder now rule).trans
    (agrees.toSameSettings.trans (second.sameSettings_cycleUnder now rule).symm)
  isFirstRun := by simp only [isFirstRun_cycleUnder]
  stored := by
    rw [stored?_cycleUnder, stored?_cycleUnder, agrees.stored?_beforePurge, agrees.isFirstRun]
  waiting time := by simp only [pending_cycleUnder, List.filter_nil]

theorem refl (id : EntityId) (evaluator : Evaluator) : AgreesOn id evaluator evaluator where
  toSameSettings := ⟨rfl, rfl, rfl, rfl, rfl, rfl⟩
  isFirstRun := rfl
  stored := rfl
  waiting _ := rfl

/-- Evaluators that agree on an entity still do when both are offered an observation. -/
theorem offer (agrees : AgreesOn id first second) (observation : Observation) :
    AgreesOn id (first.offer observation) (second.offer observation) where
  toSameSettings := (first.sameSettings_offer observation).trans
    (agrees.toSameSettings.trans (second.sameSettings_offer observation).symm)
  isFirstRun := by
    rw [offer_eq, offer_eq]
    exact agrees.isFirstRun
  stored := by
    rw [offer_eq, offer_eq]
    exact agrees.stored
  waiting time := by
    have accepts : first.accepts observation = second.accepts observation := by
      rw [accepts, accepts, agrees.namespaceName]
    have before := agrees.waiting time
    rw [agrees.identify] at before
    rw [(first.sameSettings_offer observation).identify,
      (second.sameSettings_offer observation).identify, agrees.identify, offer_eq, offer_eq, accepts]
    cases second.accepts observation with
    | true => simp only [if_true, List.filter_cons, before]
    | false => exact before

/-- An observation about another entity does not matter. -/
theorem offer_left (agrees : AgreesOn id first second) {observation : Observation}
    (elsewhere : first.identify observation ≠ id) :
    AgreesOn id (first.offer observation) second where
  toSameSettings := (first.sameSettings_offer observation).trans agrees.toSameSettings
  isFirstRun := by
    rw [offer_eq]
    exact agrees.isFirstRun
  stored := by
    rw [offer_eq]
    exact agrees.stored
  waiting time := by
    rw [(first.sameSettings_offer observation).identify, ← agrees.waiting time, offer_eq]
    cases first.accepts observation with
    | true =>
      apply List.filter_cons_of_neg
      simp only [passesAt, Bool.and_eq_true, decide_eq_true_eq]
      intro both
      exact elsewhere both.1
    | false => rfl

end AgreesOn

end Alerting.Evaluator
