import Alerting.Proofs.Store.Call

/-!
# At most one notification per run

While a run lasts, an entity is open until the first raise call about it and decided from
then on; only a purge that removes it opens it again. Each notification closes an open
entity, so there is at most one more of them than there are removals.
-/

namespace Alerting

/-- The number of answers that notify about an entity. -/
def notificationsOf (id : EntityId) (results : List (EntityId × StateChange)) : Nat :=
  results.countP fun result => result.1 = id && result.2.shouldRaise

namespace Store

/-- The number of notifications about an entity that the run still has room for. -/
def openings (store : Store) (id : EntityId) : Nat := (!store.isDecided id).toNat

theorem openings_of_isDecided_eq {first second : Store} {id : EntityId}
    (same : first.isDecided id = second.isDecided id) :
    first.openings id = second.openings id := by
  simp only [openings, same]

theorem openings_of_slot_eq {first second : Store} {id : EntityId}
    (same : first.slot id = second.slot id) : first.openings id = second.openings id :=
  openings_of_isDecided_eq (congrArg Slot.isDecided same)

end Store

namespace Call

/-- A raise call that notifies closes its entity. -/
theorem raise_openings_le (store : Store) (id other : EntityId) (new : Severity)
    (now : Instant) :
    notificationsOf id ((Call.raise other new now).results store) +
        ((store.raise other new now).2).openings id ≤ store.openings id := by
  by_cases same : id = other
  · subst same
    have closed : (store.raise id new now).2.openings id = 0 := by
      simp [Store.openings]
    cases decided : store.isDecided id with
    | true =>
      have silent : (store.raise id new now).1.shouldRaise = false := by
        rw [Store.raise_of_isDecided decided]
        rfl
      simp [notificationsOf, results, closed, silent]
    | false =>
      have room : store.openings id = 1 := by simp [Store.openings, decided]
      rw [closed, room]
      exact List.countP_le_length
  · have before : (store.raise other new now).2.openings id = store.openings id :=
      Store.openings_of_slot_eq (Store.slot_raise_of_ne same new now)
    simp [notificationsOf, results, before, Ne.symm same]

/-- A detection that reports an entity closes it, and reports it once. -/
theorem detect_openings_le (store : Store) (id : EntityId) (limit : StalenessLimit)
    (now : Instant) :
    notificationsOf id ((Call.detect limit now).results store) +
        ((limit.detect store now).2).openings id ≤ store.openings id := by
  have once : notificationsOf id ((Call.detect limit now).results store) ≤ 1 := by
    have distinct : ((limit.detect store now).1.map MissingEntity.entity).Nodup :=
      StalenessLimit.nodup_map_detect limit store now
    calc notificationsOf id ((Call.detect limit now).results store)
        = (limit.detect store now).1.countP
            fun reported => reported.entity = id && reported.change.shouldRaise := by
          simp [notificationsOf, results, List.countP_map, Function.comp_def]
      _ ≤ (limit.detect store now).1.countP fun reported => reported.entity == id := by
          apply List.countP_mono_left
          intro reported _ both
          simp_all
      _ = ((limit.detect store now).1.map MissingEntity.entity).count id := by
          rw [List.count, List.countP_map]
          rfl
      _ ≤ 1 := List.nodup_iff_count.1 distinct id
  cases closes : limit.isStale now (store.entity id) && !store.isDecided id with
  | true =>
    simp only [Bool.and_eq_true, Bool.not_eq_true'] at closes
    have room : store.openings id = 1 := by simp [Store.openings, closes.2]
    have closed : (limit.detect store now).2.openings id = 0 := by
      have decided := Store.isDecided_raise_self store id .missing now
      simp only [Store.isDecided_eq_slot] at decided
      simp [Store.openings, Store.isDecided_eq_slot, StalenessLimit.slot_detect, closes.1,
        decided]
    omega
  | false =>
    have silent : notificationsOf id ((Call.detect limit now).results store) = 0 := by
      simp only [notificationsOf, results, List.countP_map, List.countP_eq_zero]
      intro reported member
      rcases StalenessLimit.mem_detect limit store now |>.1 member with
        ⟨stale, -, -, change, raises⟩
      simp only [Function.comp_apply, Bool.and_eq_true, decide_eq_true_eq, not_and]
      rintro rfl
      simp only [stale, Bool.true_and, Bool.not_eq_false'] at closes
      rw [change, Store.raise_of_isDecided closes] at raises
      simp [StateChange.silent] at raises
    have before : (limit.detect store now).2.openings id = store.openings id := by
      apply Store.openings_of_slot_eq
      rw [StalenessLimit.slot_detect]
      split
      · rename_i stale
        simp only [stale, Bool.true_and, Bool.not_eq_false'] at closes
        rw [Store.raise_of_isDecided closes]
      · rfl
    omega

end Call

namespace Operation

/-- An operation that answers nothing and moves no mark costs nothing. -/
theorem openings_apply_le_of_quiet {store : Store} {id : EntityId} {operation : Operation}
    (quiet : operation.results store = [])
    (same : (operation.apply store).isDecided id = store.isDecided id) :
    notificationsOf id (operation.results store) + (operation.apply store).openings id ≤
      store.openings id + (operation.removes store id).toNat := by
  have none : notificationsOf id (operation.results store) = 0 := by
    rw [quiet]
    rfl
  have before : (operation.apply store).openings id = store.openings id :=
    Store.openings_of_isDecided_eq same
  omega

/-- Notifications are paid for by openings, and only removals make new ones. -/
theorem openings_apply_le (store : Store) (id : EntityId) (operation : Operation) :
    notificationsOf id (operation.results store) + (operation.apply store).openings id ≤
      store.openings id + (operation.removes store id).toNat := by
  cases operation with
  | ofCall call =>
    cases call with
    | raise other new now =>
      exact Nat.le_add_right_of_le (Call.raise_openings_le store id other new now)
    | see other tags seen =>
      apply openings_apply_le_of_quiet rfl
      simp only [apply, Call.apply, Store.isDecided_eq_slot, Store.see, Store.slot_update]
      split
      · rename_i here
        rw [here]
      · rfl
    | detect limit now =>
      exact Nat.le_add_right_of_le (Call.detect_openings_le store id limit now)
    | purge cutoff =>
      cases older : Store.isOlder cutoff (store.entity id) with
      | true =>
        have removed : (Operation.ofCall (.purge cutoff)).removes store id = true := by
          simp [removes, Store.contains_purge, Store.contains_of_isOlder older, older]
        have none : notificationsOf id ((Operation.ofCall (.purge cutoff)).results store) = 0 :=
          rfl
        have room : ((store.purge cutoff).2).openings id ≤ 1 := Bool.toNat_le _
        simp only [none, removed, apply, Call.apply, Bool.toNat_true]
        omega
      | false =>
        apply openings_apply_le_of_quiet rfl
        simp [apply, Call.apply, Store.isDecided_eq_slot, Store.slot_purge, older]
  | put entry =>
    apply openings_apply_le_of_quiet rfl
    simp only [apply, Store.isDecided_eq_slot, Store.slot_put]
    split <;> rfl
  | restore entries =>
    apply openings_apply_le_of_quiet rfl
    simp only [apply, Store.isDecided_eq_slot, Store.slot_restore]

/-- Over a whole sequence too, removals pay for what goes beyond the opening at its start. -/
theorem notificationsOf_allResults_le (store : Store) (id : EntityId)
    (operations : List Operation) :
    notificationsOf id (allResults store operations) ≤
      store.openings id + removals store id operations := by
  induction operations generalizing store with
  | nil => simp [notificationsOf, allResults]
  | cons operation rest ih =>
    have first := openings_apply_le store id operation
    have others := ih (operation.apply store)
    simp only [notificationsOf, allResults, removals, List.countP_append] at *
    omega

end Operation

namespace Store

/--
Within a run, the notifications about an entity are at most one more than the purges that
removed it; and a raise call about an entity that the run has decided about answers with
its current severity, notifies nobody and changes nothing.
-/
theorem notifications_le_succ_removals (store : Store) (id : EntityId) :
    (∀ operations : List Operation,
        notificationsOf id (Operation.allResults store operations) ≤
          1 + Operation.removals store id operations) ∧
      ∀ (new : Severity) (now : Instant), store.isDecided id = true →
        store.raise id new now = (⟨(store.entity id).current, new, false, false⟩, store) := by
  constructor
  · intro operations
    have bound := Operation.notificationsOf_allResults_le store id operations
    have room : store.openings id ≤ 1 := Bool.toNat_le _
    omega
  · intro new now decided
    exact raise_of_isDecided decided new now

/-- A purge that removes an entity makes room for one more notification, and no more. -/
theorem notifications_le_succ_removals_purged :
    let store := empty ⟨.never, false⟩ TransitionRules.unhealthyOnly.policy
    let operations : List Operation := [.ofCall (.see 1 ∅ 100), .ofCall (.raise 1 .bad 100),
      .ofCall (.raise 1 .warn 101), .ofCall (.purge 200), .ofCall (.raise 1 .bad 201)]
    let decided := (store.raise 1 .bad 100).2
    (notificationsOf 1 (Operation.allResults store operations) = 2 ∧
      Operation.removals store 1 operations = 1 ∧
      notificationsOf 1 (Operation.allResults store operations) ≤
        1 + Operation.removals store 1 operations) ∧
    decided.isDecided 1 = true ∧
      decided.raise 1 .good 101 = (⟨.bad, .good, false, false⟩, decided) := by
  intro store operations decided
  have marked : decided.isDecided 1 = true := isDecided_raise_self store 1 .bad 100
  refine ⟨⟨by decide, by decide, ?_⟩, marked, ?_⟩
  · exact (notifications_le_succ_removals store 1).1 operations
  · exact (notifications_le_succ_removals decided 1).2 .good 101 marked

end Store

end Alerting
