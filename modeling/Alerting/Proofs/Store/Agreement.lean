import Alerting.Proofs.Store.Snapshot

/-!
# Stores that agree on an entity

What a store answers about an entity, and what becomes of it, depends on the settings and on
what is stored about this entity alone. Two stores that agree in this answer every course of
requests alike as far as it is about the entity, and agree again afterwards, whatever they
hold about others.
-/

namespace Alerting

/-! ## What is said about one entity -/

/-- The entity that a raise call is about. -/
def Request.raised? : Request → Option EntityId
  | .raise namespaceName alert tags _ _ => some (entityId namespaceName alert tags)
  | .raiseById entity _ _ => some entity
  | _ => none

/-- What an answer says about an entity. A number of removed entities says nothing about any
of them. -/
def Answer.about (id : EntityId) (request : Request) : Answer → Answer
  | .change outcome => if request.raised? = some id then .change outcome else .done
  | .missing entities => .missing (entities.filter fun reported => reported.entity = id)
  | .records entries => .records (EntityRecord.about id entries)
  | .entity named => .entity named
  | .removed _ | .done => .done

theorem Answer.about_change {id : EntityId} {request : Request} {first second : StateChange}
    (same : request.raised? = some id → first = second) :
    (Answer.change first).about id request = (Answer.change second).about id request := by
  simp only [about]
  split
  · rename_i named
    rw [same named]
  · rfl

/-- What the answers to a course of requests say about an entity. -/
def Request.heard (id : EntityId) (store : Store) (requests : List Request) : List Answer :=
  List.zipWith (Answer.about id) requests (serveAll store requests).1

theorem Request.heard_cons (id : EntityId) (store : Store) (request : Request)
    (rest : List Request) :
    heard id store (request :: rest) =
      (request.serve store).1.about id request :: heard id (request.serve store).2 rest := rfl

namespace Store

/-- Two stores have the same settings and hold the same about an entity, its mark included. -/
structure AgreesOn (id : EntityId) (first second : Store) : Prop where
  config : first.config = second.config
  policy : first.policy = second.policy
  contains : first.contains id = second.contains id
  slot : first.slot id = second.slot id

/-- Nothing is known about an entity that is not stored. -/
theorem slot_of_not_contains {store : Store} {id : EntityId}
    (absent : store.contains id = false) : store.slot id = .blank := by
  have undecided : store.isDecided id = false := by
    cases decided : store.isDecided id with
    | false => rfl
    | true =>
      have stored : store.contains id = true := store.stored_of_decided id decided
      rw [absent] at stored
      cases stored
  rw [contains_eq_stored?, Option.isSome_eq_false_iff, Option.isNone_iff_eq_none] at absent
  rw [slot, undecided, entity_eq_stored?, absent]
  rfl

namespace AgreesOn

variable {id : EntityId} {first second : Store}

/-- Stores that hold nothing about an entity agree on it. -/
theorem of_not_contains (config : first.config = second.config)
    (policy : first.policy = second.policy) (absent : first.contains id = false)
    (absent' : second.contains id = false) : AgreesOn id first second where
  config := config
  policy := policy
  contains := absent.trans absent'.symm
  slot := (slot_of_not_contains absent).trans (slot_of_not_contains absent').symm

theorem entity (agrees : AgreesOn id first second) : first.entity id = second.entity id :=
  congrArg Slot.entity agrees.slot

theorem stored? (agrees : AgreesOn id first second) : first.stored? id = second.stored? id := by
  rw [stored?_eq, stored?_eq, agrees.contains, agrees.entity]

/-! ## One request -/

theorem newRun (agrees : AgreesOn id first second) :
    AgreesOn id first.newRun second.newRun where
  config := agrees.config
  policy := agrees.policy
  contains := agrees.contains
  slot := by rw [slot_newRun, slot_newRun, agrees.slot]

theorem update (agrees : AgreesOn id first second) (named : EntityId)
    (change : Entity → Entity) :
    AgreesOn id (first.update named change) (second.update named change) where
  config := agrees.config
  policy := agrees.policy
  contains := by rw [contains_update, contains_update, agrees.contains]
  slot := by
    rw [slot_update, slot_update]
    by_cases same : id = named
    · subst same
      rw [if_pos rfl, if_pos rfl, agrees.slot, agrees.entity]
    · rw [if_neg same, if_neg same, agrees.slot]

theorem see (agrees : AgreesOn id first second) (named : EntityId) (tags : Tags)
    (seen : Instant) : AgreesOn id (first.see named tags seen) (second.see named tags seen) := by
  rw [Store.see, Store.see, agrees.config]
  exact agrees.update named _

theorem raise (agrees : AgreesOn id first second) (named : EntityId) (new : Severity)
    (now : Instant) :
    (named = id → (first.raise named new now).1 = (second.raise named new now).1) ∧
      AgreesOn id (first.raise named new now).2 (second.raise named new now).2 := by
  have contains : (first.raise named new now).2.contains id =
      (second.raise named new now).2.contains id := by
    rw [contains_raise, contains_raise, agrees.contains]
  have settings : (first.raise named new now).2.config = (second.raise named new now).2.config ∧
      (first.raise named new now).2.policy = (second.raise named new now).2.policy := by
    rw [config_raise, config_raise, policy_raise, policy_raise]
    exact ⟨agrees.config, agrees.policy⟩
  by_cases same : named = id
  · subst same
    rcases slot_raise_congr agrees.policy agrees.config agrees.slot new now with ⟨change, slot⟩
    exact ⟨fun _ => change, settings.1, settings.2, contains, slot⟩
  · refine ⟨fun equal => absurd equal same, settings.1, settings.2, contains, ?_⟩
    rw [slot_raise_of_ne (Ne.symm same), slot_raise_of_ne (Ne.symm same), agrees.slot]

theorem detect (agrees : AgreesOn id first second) (limit : StalenessLimit) (now : Instant) :
    AgreesOn id (limit.detect first now).2 (limit.detect second now).2 where
  config := by rw [limit.config_detect, limit.config_detect, agrees.config]
  policy := by rw [limit.policy_detect, limit.policy_detect, agrees.policy]
  contains := by rw [contains_detect, contains_detect, agrees.contains]
  slot := by
    rw [limit.slot_detect, limit.slot_detect, agrees.entity, agrees.slot,
      (slot_raise_congr agrees.policy agrees.config agrees.slot .missing now).2]

theorem purge (agrees : AgreesOn id first second) (cutoff : Instant) :
    AgreesOn id (first.purge cutoff).2 (second.purge cutoff).2 where
  config := agrees.config
  policy := agrees.policy
  contains := by rw [contains_purge, contains_purge, agrees.contains, agrees.entity]
  slot := by rw [slot_purge, slot_purge, agrees.slot, agrees.entity]

theorem records (agrees : AgreesOn id first second) :
    EntityRecord.about id first.records = EntityRecord.about id second.records := by
  rw [EntityRecord.about, EntityRecord.about, filter_records, filter_records]
  exact congrArg (fun held : Option Entity => (held.map fun entity => entity.record id).toList)
    agrees.stored?

/-- A request is answered alike as far as it is about the entity, and the stores agree again. -/
theorem serve (agrees : AgreesOn id first second) (request : Request) :
    (request.serve first).1.about id request = (request.serve second).1.about id request ∧
      AgreesOn id (request.serve first).2 (request.serve second).2 := by
  cases request with
  | newRun => exact ⟨rfl, agrees.newRun⟩
  | raise namespaceName alert tags new now =>
    rcases agrees.raise (entityId namespaceName alert tags) new now with ⟨change, after⟩
    exact ⟨Answer.about_change fun raised => change (Option.some.inj raised), after⟩
  | raiseById named new now =>
    rcases agrees.raise named new now with ⟨change, after⟩
    exact ⟨Answer.about_change fun raised => change (Option.some.inj raised), after⟩
  | see namespaceName alert tags seen => exact ⟨rfl, agrees.see _ tags seen⟩
  | put entry => exact ⟨rfl, agrees.update entry.entity fun entity => entity.apply entry⟩
  | detect limit now =>
    refine ⟨?_, agrees.detect limit now⟩
    exact congrArg Answer.missing
      (StalenessLimit.filter_detect_congr limit agrees.config agrees.policy agrees.slot)
  | purge cutoff => exact ⟨rfl, agrees.purge cutoff⟩
  | records => exact ⟨congrArg Answer.records agrees.records, agrees⟩

/-! ## Courses of requests -/

/-- What is said about the entity is the same along every course of requests. -/
theorem serveAll (agrees : AgreesOn id first second) (requests : List Request) :
    Request.heard id first requests = Request.heard id second requests ∧
      AgreesOn id (Request.serveAll first requests).2 (Request.serveAll second requests).2 := by
  induction requests generalizing first second with
  | nil => exact ⟨rfl, agrees⟩
  | cons request rest ih =>
    rcases agrees.serve request with ⟨answer, after⟩
    rcases ih after with ⟨answers, later⟩
    rw [Request.heard_cons, Request.heard_cons, answer, answers]
    exact ⟨rfl, later⟩

end AgreesOn

end Store

end Alerting
