import Alerting.Proofs.Evaluator.ArrivalOrder
import Alerting.Proofs.Evaluator.Identity

/-!
# How long ago stored entities were seen

A purge keeps what was never seen, and a search for missing entities does not look at it. But
nothing is ever stored without having been seen: an evaluator decides about an entity only after
a sighting of it, and the records that it takes over are those of another evaluator. So a cycle
leaves only entities that were seen since its cutoff.
-/

namespace Alerting

namespace Store

/-- Every stored entity was seen at some time. -/
def SeenAll (store : Store) : Prop :=
  ∀ id, store.contains id = true → (store.entity id).lastSeen ≠ none

namespace SeenAll

variable {store after : Store}

theorem empty (config : StoreConfig) (policy : TransitionPolicy) :
    (Store.empty config policy).SeenAll := by
  intro id contained
  cases contained

/-- A store with the same entities, last seen at the same times. -/
theorem congr (seenAll : store.SeenAll) (contains : ∀ id, after.contains id = store.contains id)
    (lastSeen : ∀ id, (after.entity id).lastSeen = (store.entity id).lastSeen) :
    after.SeenAll := by
  intro id
  rw [contains, lastSeen]
  exact seenAll id

theorem newRun (seenAll : store.SeenAll) : store.newRun.SeenAll :=
  seenAll.congr (fun _ => rfl) fun _ => rfl

/-- A sighting may store an entity, which is seen thereby. -/
theorem see (seenAll : store.SeenAll) (id : EntityId) (tags : Tags) (seen : Instant) :
    (store.see id tags seen).SeenAll := by
  intro other
  by_cases same : other = id
  · subst same
    rw [entity_see_self, Entity.lastSeen_see]
    intro _
    exact Option.some_ne_none _
  · rw [contains_see, entity_see_of_ne store id tags seen same]
    simpa [same] using seenAll other

/-- Deciding about a stored entity does not store another one. -/
theorem raise (seenAll : store.SeenAll) {id : EntityId} (contained : store.contains id = true)
    (new : Severity) (now : Instant) : (store.raise id new now).2.SeenAll := by
  apply seenAll.congr
  case contains =>
    intro other
    rw [contains_raise]
    by_cases same : other = id <;> simp [same, contained]
  case lastSeen =>
    intro other
    exact store.lastSeen_raise id other new now

theorem detect (seenAll : store.SeenAll) (limit : StalenessLimit) (now : Instant) :
    (limit.detect store now).2.SeenAll :=
  seenAll.congr (contains_detect limit store now) fun id => limit.lastSeen_detect store now id

theorem purge (seenAll : store.SeenAll) (cutoff : Instant) : (store.purge cutoff).2.SeenAll := by
  intro id contained
  rw [contains_purge, Bool.and_eq_true, Bool.not_eq_true'] at contained
  rw [entity_purge, contained.2]
  exact seenAll id contained.1

/-- A new store that takes over the records of another one. -/
theorem restore_records (seenAll : store.SeenAll) (config : StoreConfig)
    (policy : TransitionPolicy) :
    ((Store.empty config policy).restore store.records).SeenAll := by
  apply seenAll.congr
  case contains =>
    intro id
    have nothing : (Store.empty config policy).contains id = false := rfl
    rw [contains_restore, any_records, nothing, Bool.or_false]
  case lastSeen =>
    intro id
    rw [entity_eq_slot, slot_restore_records]
    rfl

/-- A purge leaves only entities that were seen since its cutoff. -/
theorem exists_le_of_stored?_purge (seenAll : store.SeenAll) {cutoff : Instant} {id : EntityId}
    {entity : Entity} (stored : (store.purge cutoff).2.stored? id = some entity) :
    ∃ last, entity.lastSeen = some last ∧ cutoff ≤ last := by
  rw [stored?_purge, Option.filter_eq_some_iff, Bool.not_eq_true'] at stored
  obtain ⟨held, recent⟩ := stored
  have seen := seenAll id (by rw [contains_eq_stored?, held]; rfl)
  rw [entity_eq_stored?, held, Option.getD_some] at seen
  obtain ⟨last, lastSeen⟩ := Option.ne_none_iff_exists'.1 seen
  refine ⟨last, lastSeen, Int64.not_lt.1 fun older => ?_⟩
  have removed := isOlder_iff.2 ⟨last, lastSeen, older⟩
  rw [removed] at recent
  cases recent

end SeenAll

end Store

namespace Evaluator

/-! ## Cycles -/

section Cycle

variable {evaluator : Evaluator} {store : Store}

theorem seenAll_applyAll (now : Instant) (batch : List Observation) (seenAll : store.SeenAll) :
    (evaluator.applyAll now batch store).2.SeenAll := by
  induction batch generalizing store with
  | nil => exact seenAll
  | cons observation rest ih =>
    have settled : (evaluator.settle now store observation).SeenAll := by
      apply (seenAll.see (evaluator.identify observation) observation.tags
        observation.timestamp).raise
      rw [Store.contains_see]
      simp
    rw [applyAll_cons]
    exact ih settled

theorem seenAll_detectMissing (now : Instant) (seenAll : store.SeenAll) :
    (evaluator.detectMissing now store).2.SeenAll := by
  rw [detectMissing]
  cases evaluator.staleness with
  | none => exact seenAll
  | some limit => exact seenAll.detect limit now

theorem seenAll_beforePurge (now : Instant) (seenAll : evaluator.store.SeenAll) :
    (evaluator.beforePurge now).SeenAll :=
  seenAll_detectMissing now (seenAll_applyAll now _ seenAll.newRun)

/-- After a cycle every stored entity was seen since the cutoff of its purge. -/
theorem exists_le_of_mem_records (seenAll : evaluator.store.SeenAll) (rule : CutoffRule)
    (now : Instant) {entry : EntityRecord}
    (member : entry ∈ (evaluator.cycleUnder rule now).2.records) :
    ∃ last, entry.lastSeen = some last ∧ rule now evaluator.isFirstRun ≤ last := by
  obtain ⟨⟨id, entity⟩, stored, rfl⟩ := List.mem_map.1 member
  exact (seenAll_beforePurge now seenAll).exists_le_of_stored?_purge (SortedMap.mem_toList.1 stored)

end Cycle

/-! ## Runs -/

/-- How an evaluator of a definition begins: cold, or with the records of one that was at work
before. -/
inductive Begins (fresh : Evaluator) : Evaluator → Prop where
  | cold : Begins fresh fresh
  | restarted {earlier : Evaluator} (lineage : Lineage fresh (fun _ => True) earlier) :
      Begins fresh (fresh.restore earlier.records)

section Run

variable {fresh evaluator : Evaluator}

/-- Along every course of events, restarts included, all that is stored was seen. -/
theorem Lineage.seenAll {observed : Observation → Prop} (blank : fresh.blank = fresh)
    (lineage : Lineage fresh observed evaluator) : evaluator.store.SeenAll := by
  induction lineage with
  | fresh =>
    rw [← blank]
    exact .empty _ _
  | observe _ _ ih => exact ih
  | cycle _ rule now ih => exact (seenAll_beforePurge now ih).purge _
  | restart _ ih =>
    rw [← blank]
    exact ih.restore_records _ _

theorem Begins.lineage (begins : Begins fresh evaluator) :
    Lineage fresh (fun _ => True) evaluator := by
  cases begins with
  | cold => exact .fresh
  | restarted lineage => exact lineage.restart

theorem Begins.isFirstRun (blank : fresh.blank = fresh) (begins : Begins fresh evaluator) :
    evaluator.isFirstRun = true := by
  rw [← blank] at begins
  cases begins with
  | cold => rfl
  | restarted => rfl

/-- In a run of cycles, the first one alone may be the first since the start. -/
theorem exists_report_of_seenAll (seenAll : evaluator.store.SeenAll) {inputs : List CycleInput}
    {index : Nat} {input : CycleInput} (given : inputs[index]? = some input) :
    ∃ report, (evaluator.reports inputs)[index]? = some report ∧
      ∀ entry ∈ report.records, ∃ last, entry.lastSeen = some last ∧
        input.rule input.now (evaluator.isFirstRun && index == 0) ≤ last := by
  induction inputs generalizing evaluator index with
  | nil => cases given
  | cons first rest ih =>
    have buffered : (evaluator.buffering first.batch).store.SeenAll := by
      rw [buffering_eq]
      exact seenAll
    rw [reports_cons]
    cases index with
    | zero =>
      obtain rfl : first = input := Option.some.inj given
      refine ⟨_, rfl, fun entry member => ?_⟩
      have recent := exists_le_of_mem_records buffered first.rule first.now member
      rw [buffering_eq] at recent
      rwa [beq_self_eq_true, Bool.and_true]
    | succ index =>
      have after : (evaluator.cycleOn first).2.store.SeenAll :=
        (seenAll_beforePurge first.now buffered).purge _
      obtain ⟨report, listed, recent⟩ := ih after given
      have started : (evaluator.cycleOn first).2.isFirstRun = false := rfl
      rw [started, Bool.false_and] at recent
      exact ⟨report, listed, by simpa using recent⟩

end Run

/--
An evaluator of a definition, and all that it can become. Whatever it stores was seen at some
time, between the cycles and at every stage of each of them. In a run of cycles that begins cold
or with the records of such an evaluator, whatever is stored after a cycle was last seen no
earlier than the cutoff of that cycle, which is the one for the first run in the first cycle only.
-/
theorem stale_state_never_accumulates (definition : AlertDefinition) {fresh : Evaluator}
    (built : ofDefinition definition = .ok fresh) :
    (∀ evaluator, Lineage fresh (fun _ => True) evaluator →
      evaluator.store.SeenAll ∧ ∀ now,
        (∀ applied, applied <+: newestFirst evaluator.pending →
          (evaluator.applyAll now applied evaluator.store.newRun).2.SeenAll) ∧
        (evaluator.beforePurge now).SeenAll) ∧
    ∀ start, Begins fresh start → ∀ (inputs : List CycleInput) (index : Nat) (input : CycleInput),
      inputs[index]? = some input →
        ∃ report, (start.reports inputs)[index]? = some report ∧
          ∀ entry ∈ report.records, ∃ last, entry.lastSeen = some last ∧
            input.rule input.now (index == 0) ≤ last := by
  have blank := blank_of_ofDefinition built
  constructor
  · intro evaluator lineage
    have seenAll := lineage.seenAll blank
    exact ⟨seenAll, fun now => ⟨fun applied _ => seenAll_applyAll now applied seenAll.newRun,
      seenAll_beforePurge now seenAll⟩⟩
  · intro start begins inputs index input given
    have recent := exists_report_of_seenAll (begins.lineage.seenAll blank) given
    rwa [begins.isFirstRun blank, Bool.true_and] at recent

/-- After a restart the first purge keeps an entity that the next one forgets, with the clock set
back in between. -/
theorem stale_state_never_accumulates_restarted :
    let definition : AlertDefinition := { id := 7, missingAfter := some 60 }
    let purge : PurgePolicy := ⟨60, 600, by decide, by decide⟩
    ∃ fresh, ofDefinition definition = .ok fresh ∧
      let earlier := ((fresh.observe ⟨none, 7, ∅, .bad, 100⟩).cycle purge 100).2
      let start := fresh.restore earlier.records
      let inputs : List CycleInput := [⟨[], purge.cutoff, 690⟩, ⟨[], purge.cutoff, 680⟩]
      purge.cutoff 690 true = 90 ∧ purge.cutoff 680 false = 620 ∧
        Begins fresh start ∧ start.store.SeenAll ∧
        (start.reports inputs).map (fun report => report.records.length) = [1, 0] ∧
        ∃ first second, start.reports inputs = [first, second] ∧
          (∀ entry ∈ first.records, ∃ last,
            entry.lastSeen = some last ∧ purge.cutoff 690 true ≤ last) ∧
          ∀ entry ∈ second.records, ∃ last,
            entry.lastSeen = some last ∧ purge.cutoff 680 false ≤ last := by
  intro definition purge
  obtain ⟨fresh, built⟩ : ∃ fresh, ofDefinition definition = .ok fresh := ⟨_, rfl⟩
  refine ⟨fresh, built, ?_⟩
  intro earlier start inputs
  have atWork : Lineage fresh (fun _ => True) earlier := (Lineage.fresh.observe trivial).cycle _ _
  have begins : Begins fresh start := .restarted atWork
  have counts : (start.reports inputs).map (fun report => report.records.length) = [1, 0] := by
    cases built
    decide +kernel
  obtain ⟨seen, recent⟩ := stale_state_never_accumulates definition built
  obtain ⟨first, isFirst, atFirst⟩ := recent start begins inputs 0 ⟨[], purge.cutoff, 690⟩ rfl
  obtain ⟨second, isSecond, atSecond⟩ := recent start begins inputs 1 ⟨[], purge.cutoff, 680⟩ rfl
  have both : start.reports inputs = [first, second] := by
    obtain rfl := Option.some.inj isFirst
    obtain rfl := Option.some.inj isSecond
    rfl
  simp only [Nat.reduceBEq] at atFirst atSecond
  exact ⟨by decide +kernel, by decide +kernel, begins, (seen start begins.lineage).1, counts, first,
    second, both, atFirst, atSecond⟩

end Evaluator

end Alerting
