import Alerting.Proofs.Evaluator.Batch

/-!
# Cycles of an evaluator

What a cycle makes of an entity is settled by the newest observation about it and by what
was known before the cycle; older observations and the search for missing entities do
not interfere. Alerts about observed entities come first, newest observation in front,
and those about missing entities follow in the order of their identities.
-/

namespace Alerting.Evaluator

variable (evaluator : Evaluator) (now : Instant)

/-- The alerts of a cycle about entities that were observed. -/
def live : List Alert := (evaluator.evaluateAll now).1

/-- The alerts of a cycle about entities that fell silent. -/
def missing : List Alert := (evaluator.evaluateAll now).2.1

/-- The store just before the purge that ends a cycle. -/
def beforePurge : Store := (evaluator.evaluateAll now).2.2

/-! ## Missing entities -/

section Missing

variable (store : Store)

/-- The search for missing entities leaves a decided one alone. -/
theorem slot_detectMissing_of_isDecided {id : EntityId} (decided : store.isDecided id = true) :
    (evaluator.detectMissing now store).2.slot id = store.slot id := by
  simp only [detectMissing]
  cases evaluator.staleness with
  | none => rfl
  | some limit =>
    simp only [StalenessLimit.slot_detect, Store.raise_of_isDecided decided]
    split <;> rfl

theorem isDecided_of_mem_detectMissing {alert : Alert}
    (member : alert ∈ (evaluator.detectMissing now store).1) :
    store.isDecided alert.entity = false := by
  simp only [detectMissing] at member
  cases found : evaluator.staleness with
  | none => simp [found] at member
  | some limit =>
    rw [found] at member
    rcases List.mem_map.1 member with ⟨reported, inReport, rfl⟩
    rcases (limit.mem_detect store now).1 inReport with ⟨-, -, -, change, raises⟩
    cases decided : store.isDecided reported.entity with
    | false => exact decided
    | true =>
      rw [change, Store.raise_of_isDecided decided] at raises
      simp [StateChange.silent] at raises

/-- Missing entities are told about in ascending order. -/
theorem pairwise_detectMissing :
    (evaluator.detectMissing now store).1.Pairwise
      fun earlier later => earlier.entity < later.entity := by
  simp only [detectMissing]
  cases evaluator.staleness with
  | none => exact .nil
  | some limit =>
    refine List.pairwise_map.2 ((limit.pairwise_detect store now).imp ?_)
    intro earlier later less
    exact Std.compare_eq_lt.1 less

end Missing

/-! ## Observed entities -/

section Observed

variable {evaluator now}

theorem live_eq :
    evaluator.live now = (evaluator.leading (newestFirst evaluator.pending)).filterMap
      (evaluator.alert? now evaluator.store.newRun) :=
  evaluator.fst_applyAll now _ _

theorem mem_leading_newestFirst {observation : Observation} :
    observation ∈ evaluator.leading (newestFirst evaluator.pending) ↔
      evaluator.IsNewest (evaluator.identify observation) observation := by
  rw [mem_leading, find?_eq_some_iff_isNewest]

theorem IsNewest.identify_eq {id : EntityId} {newest : Observation}
    (isNewest : evaluator.IsNewest id newest) : evaluator.identify newest = id := by
  rcases isNewest with ⟨earlier, later, split, named, -⟩
  exact named

/-- What an alert says that an observation calls for. -/
theorem alert?_eq_some {store : Store} {observation : Observation} {alert : Alert}
    (called : evaluator.alert? now store observation = some alert) :
    alert.entity = evaluator.identify observation ∧ alert.tags = observation.tags ∧
      alert.severity = observation.severity ∧ alert.raisedAt = now := by
  simp only [alert?, Option.ite_none_right_eq_some, Option.some.injEq] at called
  rcases called with ⟨raises, rfl⟩
  refine ⟨rfl, rfl, ?_, rfl⟩
  simp only [alertOf]
  cases decided : store.isDecided (evaluator.identify observation) with
  | true => rw [Store.raise_of_isDecided decided]; rfl
  | false => rw [Store.fst_raise_of_not_isDecided decided, Entity.evaluate_eq]

/-- The live alerts are those that the newest observations call for. -/
theorem mem_live {alert : Alert} :
    alert ∈ evaluator.live now ↔
      ∃ newest, evaluator.IsNewest alert.entity newest ∧
        evaluator.alert? now evaluator.store.newRun newest = some alert := by
  rw [live_eq, List.mem_filterMap]
  constructor
  · rintro ⟨newest, member, called⟩
    rcases alert?_eq_some called with ⟨entity, -⟩
    exact ⟨newest, entity ▸ mem_leading_newestFirst.1 member, called⟩
  · rintro ⟨newest, isNewest, called⟩
    rcases alert?_eq_some called with ⟨entity, -⟩
    exact ⟨newest, mem_leading_newestFirst.2 (entity ▸ isNewest), called⟩

/-- The newest observation calls for an alert if evaluating it on what was known notifies. -/
theorem isSome_alert? {observation : Observation} :
    (evaluator.alert? now evaluator.store.newRun observation).isSome =
      (evaluator.store.entity (evaluator.identify observation)).notifies evaluator.store.policy
        evaluator.store.config.nagInterval observation.severity now := by
  have answer : (evaluator.store.newRun.raise (evaluator.identify observation)
      observation.severity now).1.shouldRaise =
      (evaluator.store.entity (evaluator.identify observation)).notifies evaluator.store.policy
        evaluator.store.config.nagInterval observation.severity now := by
    rw [Store.fst_raise_of_not_isDecided (Store.isDecided_newRun _ _), Entity.evaluate_eq,
      Store.entity_newRun]
    rfl
  rw [← answer, alert?]
  split
  · rename_i raises
    rw [raises, Option.isSome_some]
  · rename_i silent
    rw [Bool.eq_false_iff.2 silent, Option.isSome_none]

theorem nodup_map_live : ((evaluator.live now).map Alert.entity).Nodup := by
  rw [live_eq]
  refine List.pairwise_map.2 (List.pairwise_filterMap.2 ?_)
  apply (List.pairwise_map.1 (nodup_map_leading _)).imp
  intro first second different firstAlert firstCalled secondAlert secondCalled
  rw [(alert?_eq_some firstCalled).1, (alert?_eq_some secondCalled).1]
  exact different

/-- Live alerts stand in the order of the newest observations about their entities. -/
theorem pairwise_live :
    (evaluator.live now).Pairwise fun first second =>
      ∀ newestOfFirst newestOfSecond, evaluator.IsNewest first.entity newestOfFirst →
        evaluator.IsNewest second.entity newestOfSecond →
        newestOfSecond.timestamp ≤ newestOfFirst.timestamp := by
  rw [live_eq, List.pairwise_filterMap]
  apply ((pairwise_newestFirst evaluator.pending).sublist (leading_sublist _)).imp_of_mem
  intro first second inFirst inSecond le firstAlert firstCalled secondAlert secondCalled
    newestOfFirst newestOfSecond isFirst isSecond
  rw [(alert?_eq_some firstCalled).1] at isFirst
  rw [(alert?_eq_some secondCalled).1] at isSecond
  rw [isFirst.unique (mem_leading_newestFirst.1 inFirst),
    isSecond.unique (mem_leading_newestFirst.1 inSecond)]
  exact le

/-- Just before the purge, an observed entity is as its newest observation alone leaves it. -/
theorem slot_beforePurge {id : EntityId} {newest : Observation}
    (isNewest : evaluator.IsNewest id newest) :
    (evaluator.beforePurge now).slot id =
      ⟨(((evaluator.store.entity id).see evaluator.store.config.preservesIdentity newest.tags
          newest.timestamp).evaluate evaluator.store.policy evaluator.store.config.nagInterval
          newest.severity now).2, true⟩ := by
  have undecided := Store.isDecided_newRun evaluator.store id
  have batch := evaluator.slot_applyAll_of_find?_eq_some now
    (pairwise_newestFirst evaluator.pending) (find?_eq_some_iff_isNewest.2 isNewest) undecided
  obtain rfl := isNewest.identify_eq
  rw [evaluator.slot_settle_self now _ newest undecided, Store.entity_newRun] at batch
  have decided : (evaluator.applyAll now (newestFirst evaluator.pending)
      evaluator.store.newRun).2.isDecided (evaluator.identify newest) = true := by
    rw [Store.isDecided_eq_slot, batch]
  exact (evaluator.slot_detectMissing_of_isDecided now _ decided).trans batch

theorem current_beforePurge {id : EntityId} {newest : Observation}
    (isNewest : evaluator.IsNewest id newest) :
    ((evaluator.beforePurge now).entity id).current = newest.severity := by
  simp only [Store.entity_eq_slot, slot_beforePurge isNewest, Entity.current_evaluate]

theorem lastSeen_beforePurge {id : EntityId} {newest : Observation}
    (isNewest : evaluator.IsNewest id newest) :
    ((evaluator.beforePurge now).entity id).lastSeen =
      some ((evaluator.store.entity id).lastSeen.elim newest.timestamp
        fun last => max last newest.timestamp) := by
  simp only [Store.entity_eq_slot, slot_beforePurge isNewest, Entity.lastSeen_evaluate,
    Entity.lastSeen_see]

theorem not_isNewest_of_mem_missing {alert : Alert} (member : alert ∈ evaluator.missing now)
    (newest : Observation) : ¬ evaluator.IsNewest alert.entity newest := by
  intro isNewest
  have undecided := evaluator.isDecided_of_mem_detectMissing now _ member
  have batch := evaluator.slot_applyAll_of_find?_eq_some now
    (pairwise_newestFirst evaluator.pending) (find?_eq_some_iff_isNewest.2 isNewest)
    (Store.isDecided_newRun evaluator.store alert.entity)
  have decided := evaluator.isDecided_settle now evaluator.store.newRun newest
  rw [isNewest.identify_eq] at decided
  rw [Store.isDecided_eq_slot, batch] at undecided
  exact absurd decided (by simp [Store.isDecided_eq_slot, undecided])

/-- Of all alerts of a cycle, only a live one can be about an observed entity. -/
theorem mem_live_of_mem_alerts {id : EntityId} {newest : Observation} {alert : Alert}
    (isNewest : evaluator.IsNewest id newest)
    (member : alert ∈ evaluator.live now ++ evaluator.missing now) (about : alert.entity = id) :
    alert ∈ evaluator.live now := by
  rcases List.mem_append.1 member with inLive | inMissing
  · exact inLive
  · subst about
    exact absurd isNewest (not_isNewest_of_mem_missing inMissing newest)

/-- Somebody is told about an observed entity if evaluating its newest observation notifies. -/
theorem exists_mem_alerts_iff {id : EntityId} {newest : Observation}
    (isNewest : evaluator.IsNewest id newest) :
    (∃ alert ∈ evaluator.live now ++ evaluator.missing now, alert.entity = id) ↔
      (evaluator.store.entity id).notifies evaluator.store.policy
        evaluator.store.config.nagInterval newest.severity now = true := by
  obtain rfl := isNewest.identify_eq
  rw [← isSome_alert?, Option.isSome_iff_exists]
  constructor
  · rintro ⟨alert, member, about⟩
    rcases mem_live.1 (mem_live_of_mem_alerts isNewest member about) with ⟨other, isOther, called⟩
    rw [about] at isOther
    exact ⟨alert, isNewest.unique isOther ▸ called⟩
  · rintro ⟨alert, called⟩
    rcases alert?_eq_some called with ⟨about, -⟩
    have inLive : alert ∈ evaluator.live now := mem_live.2 ⟨newest, about ▸ isNewest, called⟩
    exact ⟨alert, List.mem_append_left _ inLive, about⟩

/-- The alert about an observed entity says what its newest observation says. -/
theorem eq_of_mem_alerts {id : EntityId} {newest : Observation} {alert : Alert}
    (isNewest : evaluator.IsNewest id newest)
    (member : alert ∈ evaluator.live now ++ evaluator.missing now) (about : alert.entity = id) :
    alert ∈ evaluator.live now ∧ alert.tags = newest.tags ∧
      alert.severity = newest.severity ∧ alert.raisedAt = now := by
  have inLive := mem_live_of_mem_alerts isNewest member about
  rcases mem_live.1 inLive with ⟨other, isOther, called⟩
  rw [about] at isOther
  obtain rfl := isNewest.unique isOther
  exact ⟨inLive, (alert?_eq_some called).2⟩

/-- An evaluator raises alerts of its own definition, at the time of the cycle. -/
theorem exists_alertOf_of_mem_alerts {alert : Alert}
    (member : alert ∈ evaluator.live now ++ evaluator.missing now) :
    ∃ id tags change, alert = evaluator.alertOf id tags change now := by
  rcases List.mem_append.1 member with inLive | inMissing
  · rcases mem_live.1 inLive with ⟨newest, -, called⟩
    simp only [alert?, Option.ite_none_right_eq_some, Option.some.injEq] at called
    exact ⟨_, _, _, called.2.symm⟩
  · simp only [missing, evaluateAll, detectMissing] at inMissing
    cases found : evaluator.staleness with
    | none => simp [found] at inMissing
    | some limit =>
      rw [found] at inMissing
      rcases List.mem_map.1 inMissing with ⟨reported, -, rfl⟩
      exact ⟨_, _, _, rfl⟩

/-- An evaluator speaks for its own alert only. -/
theorem alertId_of_mem_alerts {rule : CutoffRule} {alert : Alert}
    (member : alert ∈ (evaluator.cycleUnder rule now).1.alerts) :
    alert.alertId = evaluator.alertId := by
  rcases exists_alertOf_of_mem_alerts member with ⟨_, _, _, rfl⟩
  rfl

/-- A cycle tells about an entity at most once. -/
theorem nodup_map_alerts :
    ((evaluator.live now ++ evaluator.missing now).map Alert.entity).Nodup := by
  rw [List.map_append, List.nodup_append]
  refine ⟨nodup_map_live, ?_, ?_⟩
  · refine List.pairwise_map.2 ((evaluator.pairwise_detectMissing now _).imp ?_)
    intro earlier later less
    exact UInt64.ne_of_lt less
  · intro first inLive second inMissing same
    rcases List.mem_map.1 inLive with ⟨liveAlert, liveMember, rfl⟩
    rcases List.mem_map.1 inMissing with ⟨missingAlert, missingMember, rfl⟩
    rcases mem_live.1 liveMember with ⟨newest, isNewest, -⟩
    exact not_isNewest_of_mem_missing missingMember newest (same ▸ isNewest)

end Observed

/-! ## The newest observation decides -/

/-- The waiting observations enter a cycle through the newest one about each entity: that
one alone, with what was known before the cycle, settles what is known just before the
purge and whether and how somebody is told. -/
theorem newest_observation_decides (evaluator : Evaluator) (rule : CutoffRule) (now : Instant) :
    let outcome := (evaluator.cycleUnder rule now).1
    (evaluator.cycleUnder rule now).2.store =
      ((evaluator.beforePurge now).purge (rule now evaluator.isFirstRun)).2 ∧
    (∀ observation ∈ evaluator.pending,
      ∃ newest, evaluator.IsNewest (evaluator.identify observation) newest) ∧
    (∀ id newest, evaluator.IsNewest id newest →
      let before := evaluator.store.entity id
      let after := (evaluator.beforePurge now).entity id
      after.current = newest.severity ∧
      after.lastSeen =
        some (before.lastSeen.elim newest.timestamp fun last => max last newest.timestamp) ∧
      ((∃ alert ∈ outcome.alerts, alert.entity = id) ↔
        (newest.severity ≠ before.current ∧
          evaluator.store.policy before.current newest.severity = true) ∨
        (newest.severity = before.current ∧ newest.severity.isHealthy = false ∧
          evaluator.store.policy before.previous newest.severity = true ∧
          evaluator.store.config.nagInterval.isDue now before.nagTimestamp = true)) ∧
      (∀ alert ∈ outcome.alerts, alert.entity = id →
        alert ∈ evaluator.live now ∧ alert.tags = newest.tags ∧
          alert.severity = newest.severity ∧ alert.raisedAt = now)) ∧
    outcome.alerts = evaluator.live now ++ evaluator.missing now ∧
    (outcome.alerts.map Alert.entity).Nodup ∧
    (∀ alert ∈ evaluator.live now, ∃ newest, evaluator.IsNewest alert.entity newest) ∧
    (∀ alert ∈ evaluator.missing now, ∀ observation ∈ evaluator.pending,
      evaluator.identify observation ≠ alert.entity) ∧
    ((evaluator.live now).Pairwise fun first second =>
      ∀ newestOfFirst newestOfSecond, evaluator.IsNewest first.entity newestOfFirst →
        evaluator.IsNewest second.entity newestOfSecond →
        newestOfSecond.timestamp ≤ newestOfFirst.timestamp) ∧
    ((evaluator.missing now).Pairwise fun first second => first.entity < second.entity) := by
  intro outcome
  have alerts : outcome.alerts = evaluator.live now ++ evaluator.missing now := rfl
  rw [alerts]
  refine ⟨rfl, fun _ => exists_isNewest, ?_, rfl, nodup_map_alerts, ?_, ?_, pairwise_live,
    evaluator.pairwise_detectMissing now _⟩
  · intro id newest isNewest
    refine ⟨current_beforePurge isNewest, lastSeen_beforePurge isNewest, ?_, ?_⟩
    · rw [exists_mem_alerts_iff isNewest, Entity.notifies_iff]
    · intro alert member about
      exact eq_of_mem_alerts isNewest member about
  · intro alert member
    rcases mem_live.1 member with ⟨newest, isNewest, -⟩
    exact ⟨newest, isNewest⟩
  · intro alert member observation waiting same
    rcases exists_isNewest waiting with ⟨newest, isNewest⟩
    exact not_isNewest_of_mem_missing member newest (same ▸ isNewest)

/-- Of two observations with one timestamp the one received last decides. -/
theorem newest_observation_decides_equal_timestamps :
    let first : Observation := ⟨none, 7, ∅, .bad, 100⟩
    let second : Observation := ⟨none, 7, ∅, .good, 100⟩
    let store := Store.empty ⟨.never, false⟩ TransitionRules.unhealthyOnly.policy
    let evaluator : Evaluator := ⟨7, "prod", .metric, store, none, [second, first], true⟩
    let id := evaluator.identify second
    evaluator.IsNewest id second ∧ ((evaluator.beforePurge 100).entity id).current = .good ∧
      ¬ ∃ alert ∈ (evaluator.cycleUnder (fun now _ => now.ago 60) 100).1.alerts,
        alert.entity = id := by
  intro first second store evaluator id
  have isNewest : evaluator.IsNewest id second := by
    refine ⟨[first], [], rfl, rfl, ?_, by simp⟩
    intro other member _
    rw [List.mem_singleton.1 member]
    exact Int64.le_refl _
  rcases evaluator.newest_observation_decides (fun now _ => now.ago 60) 100 with
    ⟨-, -, decides, -⟩
  rcases decides id second isNewest with ⟨current, -, told, -⟩
  refine ⟨isNewest, current, ?_⟩
  intro somebody
  rcases told.1 somebody with ⟨changed, -⟩ | ⟨-, unhealthy, -⟩
  · exact changed rfl
  · cases unhealthy

end Alerting.Evaluator
