import Alerting.Proofs.Store.Membership

/-!
# What a detection touches

A detection decides about exactly the entities that are stale and not decided yet, and what
it reports is told by the severities and the timers that it finds. It looks through the
stored entities first and sorts what it has found, so the order in which they come to it is
of no account. A second one at the same time finds every stale entity decided.
-/

namespace Alerting.StalenessLimit

variable (limit : StalenessLimit) (store : Store) (now : Instant)

/-! ## Any order of enumeration -/

/-- The stale ones of some entities and when they were last seen, as they come. -/
def staleAmong (listing : List EntityId) : List (EntityId × Instant) :=
  listing.filterMap fun id =>
    ((store.entity id).lastSeen.filter (· < limit.deadline now)).map fun last => (id, last)

/-- Sightings in the order of their entities, those of one entity in the order of time. -/
def sorted (sightings : List (EntityId × Instant)) : List (EntityId × Instant) :=
  sightings.mergeSort fun earlier later => (lexOrd.compare earlier later).isLE

/-- Decides `missing` for the stale ones of some entities, in whatever order they come. -/
def detectAmong (listing : List EntityId) : List MissingEntity × Store :=
  raiseMissing now (sorted (limit.staleAmong store now listing)) store

theorem staleAmong_ids : limit.staleAmong store now store.ids = limit.stale store now := by
  rw [staleAmong, Store.ids, SortedMap.keys, List.filterMap_map, stale_eq]
  apply List.filterMap_congr
  rintro ⟨id, entity⟩ member
  rw [SortedMap.mem_toList] at member
  simp only [Function.comp_apply, Store.entity, member, Option.getD_some]

/-- The order in which the stored entities come does not matter. -/
theorem sorted_staleAmong {listing : List EntityId} (enumeration : listing.Perm store.ids) :
    sorted (limit.staleAmong store now listing) = limit.stale store now := by
  have perm : (sorted (limit.staleAmong store now listing)).Perm (limit.stale store now) := by
    rw [← staleAmong_ids]
    exact (List.mergeSort_perm _ _).trans (enumeration.filterMap _)
  have byEntity : (limit.stale store now).Pairwise
      fun earlier later => compare earlier.1 later.1 = .lt := pairwise_stale
  have ascending : (limit.stale store now).Pairwise
      fun earlier later => (lexOrd.compare earlier later).isLE = true := by
    apply byEntity.imp
    intro earlier later less
    change (((compare earlier.1 later.1).then (compare earlier.2 later.2)).isLE) = true
    rw [less]
    rfl
  apply perm.eq_of_pairwise _ _ ascending
  · intro earlier later _ _ le ge
    exact Std.LawfulEqCmp.eq_of_compare (Std.OrientedCmp.isLE_antisymm le ge)
  · apply List.pairwise_mergeSort
    · intro first second third
      exact Std.TransCmp.isLE_trans
    · intro first second
      have swap : lexOrd.compare first second = (lexOrd.compare second first).swap :=
        Std.OrientedCmp.eq_swap
      rw [swap]
      cases lexOrd.compare second first <;> rfl

/-- A detection may look through the stored entities in any order. -/
theorem detectAmong_eq {listing : List EntityId} (enumeration : listing.Perm store.ids) :
    limit.detectAmong store now listing = limit.detect store now := by
  rw [detectAmong, sorted_staleAmong limit store now enumeration, detect]

/-! ## The entities that a detection decides about -/

/-- The run has not decided about the entity, and it was last seen before the deadline. -/
def Strikes (id : EntityId) : Prop :=
  store.isDecided id = false ∧
    ∃ last, (store.entity id).lastSeen = some last ∧ last < limit.deadline now

section Strikes

variable {limit store now} {id : EntityId}

theorem strikes_iff :
    limit.Strikes store now id ↔
      store.isDecided id = false ∧ limit.isStale now (store.entity id) = true := by
  simp only [Strikes, isStale, Option.any_eq_true, decide_eq_true_eq]

theorem slot_detect_of_strikes (strikes : limit.Strikes store now id) :
    (limit.detect store now).2.slot id =
      ⟨((store.entity id).evaluate store.policy store.config.nagInterval .missing now).2, true⟩ := by
  rcases strikes_iff.1 strikes with ⟨undecided, stale⟩
  rw [slot_detect, if_pos stale, Store.slot_raise, if_pos ⟨rfl, undecided⟩]

theorem slot_detect_of_not_strikes (spared : ¬ limit.Strikes store now id) :
    (limit.detect store now).2.slot id = store.slot id := by
  rw [slot_detect]
  split
  · rename_i stale
    have decided : store.isDecided id = true := by
      cases marked : store.isDecided id with
      | true => rfl
      | false => exact absurd (strikes_iff.2 ⟨marked, stale⟩) spared
    rw [Store.raise_of_isDecided decided]
  · rfl

variable (limit store now id)

/-- After a detection no entity is left to decide about. -/
theorem not_strikes_detect : ¬ limit.Strikes (limit.detect store now).2 now id := by
  rintro ⟨undecided, last, seen, early⟩
  rw [limit.lastSeen_detect] at seen
  rw [Store.isDecided_eq_slot] at undecided
  by_cases strikes : limit.Strikes store now id
  · rw [slot_detect_of_strikes strikes] at undecided
    cases undecided
  · rw [slot_detect_of_not_strikes strikes] at undecided
    exact strikes ⟨undecided, last, seen, early⟩

end Strikes

/-! ## What it reports -/

/-- What is told of an entity that is found missing: that it turned so, where the policy
accepts this change, or that it still is, where the policy accepts the change by which it
came to be so and a repeat is due. -/
inductive Notice (policy : TransitionPolicy) (interval : NagInterval) (now : Instant)
    (entity : Entity) : StateChange → Prop where
  | turned (present : entity.current ≠ .missing)
      (accepted : policy entity.current .missing = true) :
      Notice policy interval now entity ⟨entity.current, .missing, false, true⟩
  | lasts (missing : entity.current = .missing)
      (accepted : policy entity.previous .missing = true)
      (due : interval.isDue now entity.nagTimestamp = true) :
      Notice policy interval now entity ⟨entity.previous, .missing, true, true⟩

/-- An evaluation as missing that notifies gives such a notice. -/
theorem notice_iff {policy : TransitionPolicy} {interval : NagInterval} {now : Instant}
    {entity : Entity} {change : StateChange} :
    Notice policy interval now entity change ↔
      change = (entity.evaluate policy interval .missing now).1 ∧ change.shouldRaise = true := by
  rw [Entity.evaluate_eq]
  constructor
  · rintro (⟨present, accepted⟩ | ⟨missing, accepted, due⟩)
    · simp [Entity.notifies, Entity.origin, present.symm, accepted]
    · simp [Entity.notifies, Entity.origin, missing, accepted, due, Severity.isHealthy]
  · rintro ⟨rfl, told⟩
    change entity.notifies policy interval .missing now = true at told
    rw [told, Bool.and_true]
    rcases (Entity.notifies_iff policy interval entity .missing now).1 told with
      ⟨different, accepted⟩ | ⟨same, -, accepted, due⟩
    · rw [Entity.origin, if_neg different, decide_eq_false different]
      exact .turned different.symm accepted
    · rw [Entity.origin, if_pos same, decide_eq_true same]
      exact .lasts same.symm accepted due

/-- Exactly the notices of the entities that a detection decides about are reported. -/
theorem mem_detect_iff {reported : MissingEntity} :
    reported ∈ (limit.detect store now).1 ↔
      limit.Strikes store now reported.entity ∧
        reported.tags = (store.entity reported.entity).tags ∧
        (store.entity reported.entity).lastSeen = some reported.lastSeen ∧
        Notice store.policy store.config.nagInterval now (store.entity reported.entity)
          reported.change := by
  rw [mem_detect, strikes_iff, notice_iff]
  cases decided : store.isDecided reported.entity with
  | true =>
    have silent : (store.raise reported.entity .missing now).1.shouldRaise = false := by
      rw [Store.raise_of_isDecided decided]
      rfl
    constructor
    · rintro ⟨-, -, -, change, raises⟩
      rw [change, silent] at raises
      cases raises
    · rintro ⟨⟨undecided, -⟩, -⟩
      cases undecided
  | false =>
    rw [Store.fst_raise_of_not_isDecided decided]
    constructor
    · rintro ⟨stale, seen, tags, change, raises⟩
      exact ⟨⟨rfl, stale⟩, tags, seen, change, raises⟩
    · rintro ⟨⟨-, stale⟩, tags, seen, change, raises⟩
      exact ⟨stale, seen, tags, change, raises⟩

/-- A detection that finds nothing to decide about reports and changes nothing. -/
theorem detect_eq_self (spared : ∀ id, ¬ limit.Strikes store now id) :
    limit.detect store now = ([], store) := by
  have reports : (limit.detect store now).1 = [] := by
    apply List.eq_nil_iff_forall_not_mem.2
    intro reported member
    exact spared reported.entity ((limit.mem_detect_iff store now).1 member).1
  have after : (limit.detect store now).2 = store :=
    Store.eq_of_slot_eq (limit.config_detect store now) (limit.policy_detect store now)
      (Store.contains_detect limit store now) fun id => slot_detect_of_not_strikes (spared id)
  exact Prod.ext reports after

/--
A detection, in whatever order the stored entities come to it, makes exactly the entities
missing that are stale and not decided yet, and marks them. It leaves all others as they are,
and no entity's sighting or tags change, nor does what is stored. It reports in ascending
order of the entities, each with its tags and its last sighting, who turned missing or still
is, so far as policy and timer let it. A second detection at the same time does nothing.
-/
theorem detection_touches_stale_undecided :
    let reports := (limit.detect store now).1
    let after := (limit.detect store now).2
    (∀ listing : List EntityId, listing.Perm store.ids →
      limit.detectAmong store now listing = limit.detect store now) ∧
    (∀ id, limit.Strikes store now id →
      (after.entity id).current = .missing ∧ after.isDecided id = true) ∧
    (∀ id, ¬ limit.Strikes store now id →
      after.entity id = store.entity id ∧ after.isDecided id = store.isDecided id) ∧
    (∀ id, (after.entity id).lastSeen = (store.entity id).lastSeen ∧
      (after.entity id).tags = (store.entity id).tags ∧
      after.contains id = store.contains id) ∧
    reports.Pairwise (fun earlier later => earlier.entity < later.entity) ∧
    (∀ reported, reported ∈ reports ↔
      limit.Strikes store now reported.entity ∧
        reported.tags = (store.entity reported.entity).tags ∧
        (store.entity reported.entity).lastSeen = some reported.lastSeen ∧
        Notice store.policy store.config.nagInterval now (store.entity reported.entity)
          reported.change) ∧
    limit.detect after now = ([], after) := by
  intro reports after
  refine ⟨fun _ enumeration => limit.detectAmong_eq store now enumeration, ?_, ?_, ?_, ?_,
    fun _ => limit.mem_detect_iff store now,
    limit.detect_eq_self after now fun id => not_strikes_detect limit store now id⟩
  case refine_1 =>
    intro id strikes
    rw [Store.entity_eq_slot, Store.isDecided_eq_slot, slot_detect_of_strikes strikes]
    exact ⟨Entity.current_evaluate _ _ _ _ _, rfl⟩
  case refine_2 =>
    intro id spared
    have slot := slot_detect_of_not_strikes spared
    exact ⟨congrArg Slot.entity slot, congrArg Slot.isDecided slot⟩
  case refine_3 =>
    intro id
    exact ⟨limit.lastSeen_detect store now id, limit.tags_detect store now id,
      Store.contains_detect limit store now id⟩
  case refine_4 =>
    exact (limit.pairwise_detect store now).imp Std.compare_eq_lt.1

/-- Of five entities, one turns missing and one lasts so; one is fresh, one was never seen, and
one is decided already. They come to the detection out of order. -/
theorem detection_touches_stale_undecided_shuffled :
    let limit : StalenessLimit := ⟨60, by decide⟩
    let store := (((Store.empty ⟨.every 60, true⟩ TransitionRules.unhealthyOnly.policy).restore
      [{ entity := 1, lastSeen := some 900 }, { entity := 2, lastSeen := some 990 },
        { entity := 3 }, { entity := 5, lastSeen := some 700 },
        { entity := 4, current := some .missing, lastSeen := some 800,
          nagTimestamp := some 900 }]).raise 5 .bad 1000).2
    let after := (limit.detect store 1000).2
    let listing : List EntityId := [4, 2, 5, 1, 3]
    listing.Perm store.ids ∧ limit.Strikes store 1000 1 ∧ ¬ limit.Strikes store 1000 5 ∧
      (limit.detectAmong store 1000 listing).1 =
        [⟨1, none, 900, ⟨.good, .missing, false, true⟩⟩,
          ⟨4, none, 800, ⟨.good, .missing, true, true⟩⟩] ∧
      (after.entity 1).current = .missing ∧ after.entity 5 = store.entity 5 ∧
      limit.detect after 1000 = ([], after) := by
  intro limit store after listing
  have enumeration : listing.Perm store.ids := by decide +kernel
  have strikes : limit.Strikes store 1000 1 := ⟨by decide +kernel, 900, by decide +kernel⟩
  have spared : ¬ limit.Strikes store 1000 5 := fun strikes =>
    absurd strikes.1 (by decide +kernel)
  obtain ⟨anyOrder, touched, untouched, -, -, -, again⟩ :=
    detection_touches_stale_undecided limit store 1000
  have reports : (limit.detect store 1000).1 =
      [⟨1, none, 900, ⟨.good, .missing, false, true⟩⟩,
        ⟨4, none, 800, ⟨.good, .missing, true, true⟩⟩] := by
    decide +kernel
  exact ⟨enumeration, strikes, spared, by rw [anyOrder listing enumeration, reports],
    (touched 1 strikes).1, (untouched 5 spared).1, again⟩

end Alerting.StalenessLimit
