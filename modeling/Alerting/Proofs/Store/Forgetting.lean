import Alerting.Proofs.Purge
import Alerting.Proofs.Store.Agreement

/-!
# Forgetting

A purge forgets the entities that were last seen before its cutoff, with their marks, and
counts them. Two purges forget together what the one with the later cutoff forgets. What is
forgotten leaves no trace: from then on nobody can tell the entity from one that was never
heard of.
-/

namespace Alerting.Store

/-- The entity was seen, and last before the cutoff. -/
def SeenOnlyBefore (store : Store) (cutoff : Instant) (id : EntityId) : Prop :=
  ∃ last, (store.entity id).lastSeen = some last ∧ last < cutoff

instance (store : Store) (cutoff : Instant) (id : EntityId) :
    Decidable (store.SeenOnlyBefore cutoff id) :=
  decidable_of_iff (isOlder cutoff (store.entity id) = true) isOlder_iff

variable (store : Store) (cutoff later : Instant)

/-! ## What a purge removes -/

section Removal

variable {store cutoff} {id : EntityId}

theorem slot_purge_of_seenOnlyBefore (old : store.SeenOnlyBefore cutoff id) :
    (store.purge cutoff).2.slot id = .blank := by
  rw [slot_purge, if_pos (isOlder_iff.2 old)]

theorem contains_purge_of_seenOnlyBefore (old : store.SeenOnlyBefore cutoff id) :
    (store.purge cutoff).2.contains id = false := by
  rw [contains_purge, isOlder_iff.2 old, Bool.not_true, Bool.and_false]

theorem agreesOn_purge (recent : ¬ store.SeenOnlyBefore cutoff id) :
    AgreesOn id (store.purge cutoff).2 store := by
  have kept : isOlder cutoff (store.entity id) = false :=
    Bool.eq_false_iff.2 fun older => recent (isOlder_iff.1 older)
  refine ⟨rfl, rfl, ?_, ?_⟩
  · rw [contains_purge, kept, Bool.not_false, Bool.and_true]
  · rw [slot_purge, kept]
    rfl

end Removal

/-! ## How many they are -/

/-- The entities that a purge counts are gone from the store. -/
theorem removed_add_size_purge :
    (store.purge cutoff).1 + (store.purge cutoff).2.size = store.size :=
  Nat.sub_add_cancel (List.length_filter_le _ _)

theorem removed_eq_length_filter :
    (store.purge cutoff).1 = (store.ids.filter (store.SeenOnlyBefore cutoff ·)).length := by
  have older : store.ids.filter (store.SeenOnlyBefore cutoff ·) =
      (store.entities.toList.filter fun entry => isOlder cutoff entry.2).map Prod.fst := by
    rw [ids, SortedMap.keys, List.filter_map]
    congr 1
    apply List.filter_congr
    rintro ⟨id, entity⟩ member
    rw [SortedMap.mem_toList] at member
    rw [Bool.eq_iff_iff, Function.comp_apply, decide_eq_true_eq, isOlder_iff, SeenOnlyBefore,
      Store.entity, member, Option.getD_some]
  have parts : store.size =
      (store.entities.toList.filter fun entry => isOlder cutoff entry.2).length +
        (store.purge cutoff).2.size :=
    List.length_eq_length_filter_add _
  have whole := store.removed_add_size_purge cutoff
  rw [older, List.length_map]
  omega

/-! ## Two purges -/

theorem isOlder_max (entity : Entity) :
    isOlder (max cutoff later) entity = (isOlder cutoff entity || isOlder later entity) := by
  simp only [isOlder]
  cases entity.lastSeen with
  | none => rfl
  | some last =>
    rw [Bool.eq_iff_iff, Entity.max_eq_ite]
    simp only [Bool.or_eq_true, decide_eq_true_eq, Int64.lt_iff_toInt_lt]
    split <;> omega

theorem purge_purge :
    ((store.purge cutoff).2.purge later).2 = (store.purge (max cutoff later)).2 := by
  apply eq_of_slot_eq
  case config => rw [config_purge, config_purge, config_purge]
  case policy => rw [policy_purge, policy_purge, policy_purge]
  case contains =>
    intro id
    rw [contains_purge, contains_purge, contains_purge, entity_purge, isOlder_max]
    cases isOlder cutoff (store.entity id) <;> simp
  case slot =>
    intro id
    rw [slot_purge, slot_purge, slot_purge, entity_purge, isOlder_max]
    cases isOlder cutoff (store.entity id) <;> simp [isOlder]

theorem removed_purge_purge :
    (store.purge cutoff).1 + ((store.purge cutoff).2.purge later).1 =
      (store.purge (max cutoff later)).1 := by
  have first := store.removed_add_size_purge cutoff
  have second := (store.purge cutoff).2.removed_add_size_purge later
  have both := store.removed_add_size_purge (max cutoff later)
  rw [purge_purge] at second
  omega

/-! ## What is left -/

/-- A forgotten entity is like one that a store with the same settings never heard of. -/
theorem agreesOn_of_forgotten {store fresh : Store} {cutoff : Instant} {id : EntityId}
    (old : store.SeenOnlyBefore cutoff id) (config : fresh.config = store.config)
    (policy : fresh.policy = store.policy) (unheard : fresh.contains id = false) :
    AgreesOn id (store.purge cutoff).2 fresh :=
  .of_not_contains config.symm policy.symm (contains_purge_of_seenOnlyBefore old) unheard

/--
A purge forgets exactly the entities that were seen, and last before its cutoff, with their
marks, and says how many they are; all others stay as they are, and so do their marks. A
second purge leaves the store that one with the later of the two cutoffs leaves, and the two
together count what that one counts. From then on no course of requests tells a forgotten
entity from one that a store with the same settings never heard of.
-/
theorem purges_are_exact_and_compose :
    let after := (store.purge cutoff).2
    (∀ id, store.SeenOnlyBefore cutoff id →
      store.contains id = true ∧ after.stored? id = none ∧ after.isDecided id = false) ∧
    (∀ id, ¬ store.SeenOnlyBefore cutoff id →
      after.stored? id = store.stored? id ∧ after.isDecided id = store.isDecided id) ∧
    (store.purge cutoff).1 = (store.ids.filter (store.SeenOnlyBefore cutoff ·)).length ∧
    (after.purge later).2 = (store.purge (max cutoff later)).2 ∧
    (store.purge cutoff).1 + (after.purge later).1 = (store.purge (max cutoff later)).1 ∧
    ∀ id, store.SeenOnlyBefore cutoff id →
      ∀ fresh : Store, fresh.config = store.config → fresh.policy = store.policy →
        fresh.contains id = false → ∀ requests : List Request,
          Request.heard id after requests = Request.heard id fresh requests ∧
            (Request.serveAll after requests).2.stored? id =
              (Request.serveAll fresh requests).2.stored? id ∧
            (Request.serveAll after requests).2.isDecided id =
              (Request.serveAll fresh requests).2.isDecided id := by
  intro after
  refine ⟨?_, ?_, store.removed_eq_length_filter cutoff, store.purge_purge cutoff later,
    store.removed_purge_purge cutoff later, ?_⟩
  case refine_1 =>
    intro id old
    have gone : after.contains id = false := contains_purge_of_seenOnlyBefore old
    have blank : after.slot id = .blank := slot_purge_of_seenOnlyBefore old
    obtain ⟨last, seen, -⟩ := old
    rw [stored?_eq, gone, isDecided_eq_slot, blank]
    exact ⟨contains_of_lastSeen seen, rfl, rfl⟩
  case refine_2 =>
    intro id recent
    have agrees : AgreesOn id after store := agreesOn_purge recent
    exact ⟨agrees.stored?, congrArg Slot.isDecided agrees.slot⟩
  case refine_3 =>
    intro id old fresh config policy unheard requests
    have agrees : AgreesOn id after fresh := agreesOn_of_forgotten old config policy unheard
    rcases agrees.serveAll requests with ⟨heard, later⟩
    exact ⟨heard, later.stored?, congrArg Slot.isDecided later.slot⟩

/-- A marked entity is forgotten, a marked one that was never seen is kept; the second cutoff
lies before the first. The forgotten entity is then reported again. -/
theorem purges_are_exact_and_compose_marked :
    let rules := TransitionRules.unhealthyOnly.policy
    let fresh := empty ⟨.every 60, true⟩ rules
    let store := (((fresh.restore [{ entity := 1, lastSeen := some 900 },
      { entity := 2, lastSeen := some 1000 }]).raise 1 .bad 990).2.raise 3 .bad 990).2
    let after := (store.purge 950).2
    let requests : List Request := [.raiseById 1 .bad 1001, .raiseById 2 .warn 1001, .records]
    store.SeenOnlyBefore 950 1 ∧ ¬ store.SeenOnlyBefore 950 3 ∧
      (store.purge 950).1 = 1 ∧ after.stored? 1 = none ∧ after.isDecided 3 = true ∧
      (after.purge 940).2 = (store.purge 950).2 ∧
      Request.heard 1 after requests = Request.heard 1 fresh requests ∧
      Request.heard 1 after requests = [.change ⟨.good, .bad, false, true⟩, .done,
        .records [⟨1, none, some .bad, some .good, none, some 1001⟩]] := by
  intro rules fresh store after requests
  have old : store.SeenOnlyBefore 950 1 := by decide +kernel
  have recent : ¬ store.SeenOnlyBefore 950 3 := by decide +kernel
  obtain ⟨gone, kept, count, twice, -, unheard⟩ := purges_are_exact_and_compose store 950 940
  have decided : store.isDecided 3 = true := by decide +kernel
  have marked : after.isDecided 3 = true := (kept 3 recent).2.trans decided
  have largest : max (950 : Instant) 940 = 950 := by decide
  rw [largest] at twice
  have same : Request.heard 1 after requests = Request.heard 1 fresh requests :=
    (unheard 1 old fresh rfl rfl rfl requests).1
  have answers : Request.heard 1 fresh requests = [.change ⟨.good, .bad, false, true⟩, .done,
      .records [⟨1, none, some .bad, some .good, none, some 1001⟩]] := by
    rfl
  exact ⟨old, recent, count.trans (by decide +kernel), (gone 1 old).2.1, marked, twice, same,
    same.trans answers⟩

end Alerting.Store
