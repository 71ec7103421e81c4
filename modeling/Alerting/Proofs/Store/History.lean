import Alerting.Proofs.Store.Call
import Alerting.Proofs.Store.Decision

/-!
# Histories of a store

A history lists what was done to a store that began empty. What the store answers next is
read off the history alone: when an entity was last seen, whether the run has decided about
it, and which decisions were made about it since it was last forgotten. A restart, which
moves the records into a new store, leaves no trace in any of them but the end of the run.
-/

namespace Alerting

/-- What happens to a store: a new run, a call within a run, or a restart from its records. -/
inductive Event where
  | newRun
  | ofCall (call : Call)
  | restart

/-- The store after an event. A restart keeps the settings and starts a run. -/
def Event.apply (store : Store) : Event → Store
  | .newRun => store.newRun
  | .ofCall call => call.apply store
  | .restart => ((Store.empty store.config store.policy).restore store.records).newRun

/-- What happened to a store, the last event first. -/
abbrev History := List Event

namespace History

/-- The store that a history leads to. -/
def replay (config : StoreConfig) (policy : TransitionPolicy) : History → Store
  | [] => .empty config policy
  | event :: earlier => event.apply (replay config policy earlier)

/-! ## What a history says about an entity -/

section Account

variable (id : EntityId)

/-- When the entity was last seen since it was last forgotten. -/
def lastSeen : History → Option Instant
  | [] => none
  | .ofCall (.see other _ seen) :: earlier =>
    if id = other then
      match lastSeen earlier with
      | none => some seen
      | some last => some (max last seen)
    else lastSeen earlier
  | .ofCall (.purge cutoff) :: earlier => (lastSeen earlier).filter fun last => cutoff ≤ last
  | _ :: earlier => lastSeen earlier

/-- Whether a call forgets the entity: a purge does if it was last seen before the cutoff. -/
def isForgotten (earlier : History) : Call → Bool
  | .purge cutoff => (lastSeen id earlier).any fun last => last < cutoff
  | _ => false

/-- The raise call about the entity that a call makes, itself or for a stale entity. -/
def raiseCall? (earlier : History) : Call → Option Decision
  | .raise other new now => if id = other then some ⟨new, now⟩ else none
  | .detect limit now =>
    if (lastSeen id earlier).any fun last => last < limit.deadline now then
      some ⟨.missing, now⟩
    else none
  | _ => none

/-- Whether the run has had a raise call about the entity since it was last forgotten. -/
def isDecided : History → Bool
  | .ofCall call :: earlier =>
    !isForgotten id earlier call && (isDecided earlier || (raiseCall? id earlier call).isSome)
  | _ => false

/-- The first raise calls of the runs since the entity was last forgotten, the last first. -/
def decisions : History → List Decision
  | [] => []
  | .ofCall call :: earlier =>
    if isForgotten id earlier call then []
    else if isDecided id earlier then decisions earlier
    else (raiseCall? id earlier call).toList ++ decisions earlier
  | _ :: earlier => decisions earlier

end Account

/-! ## What the store knows -/

/-- The slot of an entity holds what the history says about it. -/
structure Records (policy : TransitionPolicy) (interval : NagInterval) (id : EntityId)
    (history : History) (slot : Slot) : Prop where
  isDecided_eq : slot.isDecided = isDecided id history
  lastSeen_eq : slot.entity.lastSeen = lastSeen id history
  tells : Decision.Tells policy interval (decisions id history) slot.entity

section Replay

variable {config : StoreConfig} {policy : TransitionPolicy} {id : EntityId}
  {earlier : History} {store : Store}

@[simp] theorem policy_replay (history : History) :
    (replay config policy history).policy = policy := by
  induction history with
  | nil => rfl
  | cons event earlier ih => cases event <;> simp [replay, Event.apply, ih, Store.empty]

@[simp] theorem config_replay (history : History) :
    (replay config policy history).config = config := by
  induction history with
  | nil => rfl
  | cons event earlier ih => cases event <;> simp [replay, Event.apply, ih, Store.empty]

/-- Where a call makes a raise call about the entity, its slot changes as by that call. -/
theorem slot_apply_of_raiseCall? {call : Call} {next : Decision}
    (seen : (store.entity id).lastSeen = lastSeen id earlier)
    (made : raiseCall? id earlier call = some next) :
    (call.apply store).slot id = (store.raise id next.severity next.now).2.slot id := by
  cases call with
  | raise other new now =>
    simp only [raiseCall?, Option.ite_none_right_eq_some, Option.some.injEq] at made
    rcases made with ⟨rfl, rfl⟩
    rfl
  | see other tags seen => simp [raiseCall?] at made
  | detect limit now =>
    simp only [raiseCall?, ← seen, Option.ite_none_right_eq_some, Option.some.injEq] at made
    rcases made with ⟨stale, rfl⟩
    simp only [Call.apply, StalenessLimit.slot_detect, StalenessLimit.isStale, stale, if_true]
  | purge cutoff => simp [raiseCall?] at made

end Replay

section Step

variable {config : StoreConfig} {policy : TransitionPolicy} {id : EntityId}
  {earlier : History} {store : Store}

/-- A call that is silent about the entity leaves what is said about it. -/
theorem Records.of_silent {interval : NagInterval} {slot : Slot} {call : Call}
    (records : Records policy interval id earlier slot)
    (silent : raiseCall? id earlier call = none) (kept : isForgotten id earlier call = false)
    (seen : lastSeen id (.ofCall call :: earlier) = lastSeen id earlier) :
    Records policy interval id (.ofCall call :: earlier) slot where
  isDecided_eq := by simp [isDecided, silent, kept, records.isDecided_eq]
  lastSeen_eq := records.lastSeen_eq.trans seen.symm
  tells := by
    have same : decisions id (.ofCall call :: earlier) = decisions id earlier := by
      simp [decisions, silent, kept]
    exact same ▸ records.tells

/-- A call that makes a raise call about the entity adds a decision, once per run. -/
theorem Records.of_raiseCall {call : Call} {next : Decision}
    (records : Records store.policy store.config.nagInterval id earlier (store.slot id))
    (made : raiseCall? id earlier call = some next) (kept : isForgotten id earlier call = false)
    (seen : lastSeen id (.ofCall call :: earlier) = lastSeen id earlier) :
    Records store.policy store.config.nagInterval id (.ofCall call :: earlier)
      ((call.apply store).slot id) := by
  rw [slot_apply_of_raiseCall? records.lastSeen_eq made]
  have marks : store.isDecided id = isDecided id earlier := records.isDecided_eq
  cases decided : isDecided id earlier with
  | true =>
    rw [Store.raise_of_isDecided (marks.trans decided)]
    refine ⟨?_, records.lastSeen_eq.trans seen.symm, ?_⟩
    · simp [isDecided, kept, decided, records.isDecided_eq]
    · have same : decisions id (.ofCall call :: earlier) = decisions id earlier := by
        simp [decisions, kept, decided]
      exact same ▸ records.tells
  | false =>
    have added : decisions id (.ofCall call :: earlier) = next :: decisions id earlier := by
      simp [decisions, kept, decided, made]
    have slot : (store.raise id next.severity next.now).2.slot id =
        ⟨((store.entity id).evaluate store.policy store.config.nagInterval next.severity
          next.now).2, true⟩ := by
      simp [Store.slot_raise, marks.trans decided]
    rw [slot]
    constructor
    · simp [isDecided, kept, made]
    · rw [seen, ← records.lastSeen_eq, Entity.evaluate_eq]
      rfl
    · rw [added]
      exact records.tells.evaluate next

/-- Every call keeps the agreement of a store with its history. -/
theorem Records.apply
    (records : Records store.policy store.config.nagInterval id earlier (store.slot id))
    (call : Call) :
    Records store.policy store.config.nagInterval id (.ofCall call :: earlier)
      ((call.apply store).slot id) := by
  cases call with
  | raise other new now =>
    by_cases same : id = other
    · have made : raiseCall? id earlier (.raise other new now) = some ⟨new, now⟩ := by
        simp [raiseCall?, same]
      exact records.of_raiseCall made rfl rfl
    · have untouched : ((Call.raise other new now).apply store).slot id = store.slot id :=
        Store.slot_raise_of_ne same new now
      rw [untouched]
      exact records.of_silent (by simp [raiseCall?, same]) rfl rfl
  | detect limit now =>
    cases stale : (lastSeen id earlier).any fun last => last < limit.deadline now with
    | true =>
      have made : raiseCall? id earlier (.detect limit now) = some ⟨.missing, now⟩ := by
        simp [raiseCall?, stale]
      exact records.of_raiseCall made rfl rfl
    | false =>
      have fresh : limit.isStale now (store.entity id) = false := by
        rw [StalenessLimit.isStale, Store.entity_eq_slot, records.lastSeen_eq, stale]
      have untouched : ((Call.detect limit now).apply store).slot id = store.slot id := by
        simp [Call.apply, StalenessLimit.slot_detect, fresh]
      rw [untouched]
      exact records.of_silent (by simp [raiseCall?, stale]) rfl rfl
  | see other tags seen =>
    by_cases same : id = other
    · subst same
      have slot : ((Call.see id tags seen).apply store).slot id =
          { store.slot id with
            entity := (store.entity id).see store.config.preservesIdentity tags seen } := by
        simp [Call.apply, Store.see, Store.slot_update]
      rw [slot]
      constructor
      · simp [isDecided, isForgotten, raiseCall?, records.isDecided_eq]
      · simp only [Entity.lastSeen_see, Store.entity_eq_slot, records.lastSeen_eq, lastSeen, if_true]
        cases lastSeen id earlier <;> rfl
      · have kept : decisions id (.ofCall (.see id tags seen) :: earlier) =
            decisions id earlier := by
          simp [decisions, isForgotten, raiseCall?]
        rw [kept]
        exact records.tells.of_fields_eq rfl rfl rfl
    · have untouched : ((Call.see other tags seen).apply store).slot id = store.slot id := by
        simp [Call.apply, Store.see, Store.slot_update, same]
      rw [untouched]
      exact records.of_silent rfl rfl (by simp [lastSeen, same])
  | purge cutoff =>
    have age : Store.isOlder cutoff (store.entity id) =
        isForgotten id earlier (.purge cutoff) := by
      simp only [isForgotten, ← records.lastSeen_eq, Store.isOlder, Store.entity_eq_slot]
      cases (store.slot id).entity.lastSeen <;> rfl
    cases forgotten : isForgotten id earlier (.purge cutoff) with
    | true =>
      have blank : ((Call.purge cutoff).apply store).slot id = .blank := by
        simp [Call.apply, Store.slot_purge, age, forgotten]
      rw [blank]
      constructor
      · simp [isDecided, forgotten, Slot.blank]
      · simp only [isForgotten, Option.any_eq_true, decide_eq_true_eq] at forgotten
        rcases forgotten with ⟨last, seen, early⟩
        simp [Slot.blank, lastSeen, seen, Option.filter, Int64.not_le.2 early]
      · have none : decisions id (.ofCall (.purge cutoff) :: earlier) = [] := by
          simp [decisions, forgotten]
        rw [none]
        exact Decision.Tells.nil
    | false =>
      have untouched : ((Call.purge cutoff).apply store).slot id = store.slot id := by
        simp [Call.apply, Store.slot_purge, age, forgotten]
      rw [untouched]
      apply records.of_silent rfl forgotten
      simp only [isForgotten, Option.any_eq_false, decide_eq_false_iff_not,
        Int64.not_lt] at forgotten
      simp only [lastSeen]
      cases seen : lastSeen id earlier with
      | none => rfl
      | some last => simp [Option.filter, forgotten last seen]

end Step

/-- Whatever happened to a store, its slots hold what the history says. -/
theorem records_replay (config : StoreConfig) (policy : TransitionPolicy) (history : History)
    (id : EntityId) :
    Records policy config.nagInterval id history ((replay config policy history).slot id) := by
  induction history with
  | nil => exact ⟨rfl, rfl, Decision.Tells.nil⟩
  | cons event earlier ih =>
    cases event with
    | newRun =>
      rw [replay, Event.apply, Store.slot_newRun]
      exact ⟨rfl, ih.lastSeen_eq, ih.tells⟩
    | ofCall call =>
      have before : Records (replay config policy earlier).policy
          (replay config policy earlier).config.nagInterval id earlier
          ((replay config policy earlier).slot id) := by
        rw [policy_replay, config_replay]
        exact ih
      have after := before.apply call
      rw [policy_replay, config_replay] at after
      exact after
    | restart =>
      rw [replay, Event.apply, Store.slot_newRun, Store.slot_restore_records]
      exact ⟨rfl, ih.lastSeen_eq, ih.tells⟩

/--
Whether the first raise call about an entity in a run notifies follows from what happened
before, whether somebody makes the call or a detection does for a stale entity.
-/
theorem raise_follows_history (config : StoreConfig) (policy : TransitionPolicy)
    (loadable : ∀ seconds, config.nagInterval = .every seconds →
      (seconds.toNat : Int) ≤ Int64.maxValue.toInt)
    (history : History) (id : EntityId) (undecided : isDecided id history = false) :
    (∀ (new : Severity) (now : Instant),
      let change := ((replay config policy history).raise id new now).1
      Decision.Follows policy config.nagInterval (decisions id history) ⟨new, now⟩
        change.shouldRaise change.isNag) ∧
    ∀ (limit : StalenessLimit) (now : Instant),
      raiseCall? id history (.detect limit now) = some ⟨.missing, now⟩ →
      let reports := (limit.detect (replay config policy history) now).1.filter
        fun reported => reported.entity = id
      Decision.Follows policy config.nagInterval (decisions id history) ⟨.missing, now⟩
        (!reports.isEmpty) (reports.any fun reported => reported.change.isNag) := by
  have records := records_replay config policy history id
  have marks : (replay config policy history).isDecided id = false :=
    records.isDecided_eq.trans undecided
  have follows (new : Severity) (now : Instant) :
      Decision.Follows policy config.nagInterval (decisions id history) ⟨new, now⟩
        ((replay config policy history).raise id new now).1.shouldRaise
        ((replay config policy history).raise id new now).1.isNag := by
    rw [Store.fst_raise_of_not_isDecided marks, policy_replay, config_replay]
    exact records.tells.follows loadable ⟨new, now⟩
  refine ⟨follows, fun limit now made => ?_⟩
  simp only [raiseCall?, Option.ite_none_right_eq_some, Option.any_eq_true,
    decide_eq_true_eq] at made
  rcases made with ⟨⟨last, seen, early⟩, -⟩
  have rule := follows .missing now
  simp only [StalenessLimit.filter_detect (records.lastSeen_eq.trans seen) early,
    StalenessLimit.report?]
  cases raises : ((replay config policy history).raise id .missing now).1.shouldRaise with
  | true => simpa [raises] using rule
  | false =>
    have plain : ((replay config policy history).raise id .missing now).1.isNag = false :=
      Bool.eq_false_iff.2 fun nag => by simp [Store.shouldRaise_of_isNag nag] at raises
    simpa [raises, plain] using rule

/-- A lasting severity notifies again after a restart, once its interval has passed. -/
theorem raise_follows_history_restart :
    let config : StoreConfig := ⟨.every 60, false⟩
    let policy := TransitionRules.unhealthyOnly.policy
    let history : History := [.restart, .ofCall (.raise 1 .bad 1000), .newRun]
    let change := ((replay config policy history).raise 1 .bad 1061).1
    isDecided 1 history = false ∧ change.shouldRaise = true ∧
      Decision.Follows policy config.nagInterval (decisions 1 history) ⟨.bad, 1061⟩
        change.shouldRaise change.isNag := by
  intro config policy history change
  have undecided : isDecided 1 history = false := by decide
  refine ⟨undecided, by decide, ?_⟩
  have loadable (seconds : Seconds) (interval : config.nagInterval = .every seconds) :
      (seconds.toNat : Int) ≤ Int64.maxValue.toInt := by
    cases interval
    decide
  exact (raise_follows_history config policy loadable history 1 undecided).1 .bad 1061

end History

end Alerting
