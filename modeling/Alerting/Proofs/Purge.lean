import Alerting.Config
import Alerting.Proofs.Store.Slot

/-!
# The order of purge cutoffs

Within the range of signed words, going back further leads to an earlier instant; clamping
keeps the order. So the first purge after a start forgets no more than a later one.
-/

namespace Alerting

theorem Instant.ofIntClamp_le_ofIntClamp {first second : Int} (le : first ≤ second) :
    Int64.ofIntClamp first ≤ Int64.ofIntClamp second := by
  rw [Int64.ofIntClamp, Int64.ofIntClamp]
  split
  · rename_i above
    split
    · rename_i below
      rw [dif_pos (Int.le_trans above le)]
      split
      · rw [Int64.le_iff_toInt_le, Int64.toInt_ofIntLE, Int64.toInt_ofIntLE]
        exact le
      · rw [Int64.le_iff_toInt_le]
        exact Int64.toInt_le _
    · rename_i beyond
      rw [dif_pos (Int.le_trans above le), dif_neg fun below => beyond (Int.le_trans le below)]
      exact Int64.le_refl _
  · rw [Int64.le_iff_toInt_le]
    exact Int64.minValue_le_toInt _

/-- A longer span, unless it is beyond the largest signed word, leads further back. -/
theorem Instant.ago_le_ago {shorter longer : Seconds} (le : shorter ≤ longer)
    (fits : (longer.toNat : Int) ≤ Int64.maxValue.toInt) (now : Instant) :
    now.ago longer ≤ now.ago shorter := by
  have lengths : shorter.toNat ≤ longer.toNat := UInt64.le_iff_toNat_le.1 le
  have longWord := Seconds.toInt_toInt64 fits
  have shortWord := Seconds.toInt_toInt64
    (Int.le_trans (Int.ofNat_le.2 lengths) fits)
  apply ofIntClamp_le_ofIntClamp
  omega

/-- The window of the first purge after a start, or that of a later one. -/
def PurgePolicy.windowAt (policy : PurgePolicy) (isFirstRun : Bool) : Seconds :=
  if isFirstRun then policy.firstRunWindow else policy.window

/-- The first purge after a start forgets no more than a later one. -/
theorem PurgePolicy.cutoff_firstRun_le (policy : PurgePolicy)
    (fits : (policy.firstRunWindow.toNat : Int) ≤ Int64.maxValue.toInt) (now : Instant) :
    policy.cutoff now true ≤ policy.cutoff now false :=
  Instant.ago_le_ago policy.window_le_firstRunWindow fits now

/-- The windows of a policy are those that it was built from. -/
theorem PurgePolicy.of_ofWindows {window firstRunWindow : Seconds} {policy : PurgePolicy}
    (accepted : ofWindows window firstRunWindow = .ok policy) :
    policy.window = window ∧ policy.firstRunWindow = firstRunWindow := by
  rw [ofWindows] at accepted
  split at accepted
  · cases accepted
  · split at accepted
    · cases accepted
    · split at accepted
      · cases accepted
      · cases accepted
        exact ⟨rfl, rfl⟩

/-- The windows of a configuration's policy are those that are configured. -/
theorem Config.windows_of_purgePolicy {config : Config} {policy : PurgePolicy}
    (accepted : config.purgePolicy = .ok policy) :
    policy.window = config.purgeWindow ∧ policy.firstRunWindow = config.firstRunPurgeWindow := by
  rw [purgePolicy] at accepted
  cases windows : PurgePolicy.ofWindows config.purgeWindow config.firstRunPurgeWindow with
  | error error =>
    rw [windows] at accepted
    cases accepted
  | ok built =>
    rw [windows] at accepted
    cases accepted
    exact PurgePolicy.of_ofWindows windows

/-- An entity that a purge forgets, unless it is the first one after a start. -/
def PurgePolicy.SparesAtFirst (policy : PurgePolicy) (now : Instant) (entity : Entity) : Prop :=
  ∃ last, entity.lastSeen = some last ∧
    policy.cutoff now true ≤ last ∧ last < policy.cutoff now false

theorem Store.isOlder_iff {cutoff : Instant} {entity : Entity} :
    isOlder cutoff entity = true ↔ ∃ last, entity.lastSeen = some last ∧ last < cutoff := by
  rw [isOlder]
  cases entity.lastSeen <;> simp

/-- A purge forgets the entities that were last seen before its cutoff. -/
theorem Store.forgets_iff_lastSeen {store : Store} {cutoff : Instant} {id : EntityId} :
    store.Forgets cutoff id ↔ ∃ last, (store.entity id).lastSeen = some last ∧ last < cutoff :=
  forgets_iff.trans isOlder_iff

/-- A first purge keeps what a later one keeps and what is spared at first. -/
theorem PurgePolicy.not_isOlder_firstRun_iff (policy : PurgePolicy)
    (fits : (policy.firstRunWindow.toNat : Int) ≤ Int64.maxValue.toInt) (now : Instant)
    (entity : Entity) :
    Store.isOlder (policy.cutoff now true) entity = false ↔
      Store.isOlder (policy.cutoff now false) entity = false ∨ policy.SparesAtFirst now entity := by
  have order := policy.cutoff_firstRun_le fits now
  rw [Store.isOlder, Store.isOlder, SparesAtFirst]
  cases entity.lastSeen with
  | none => simp
  | some last =>
    simp only [decide_eq_false_iff_not, Int64.not_lt, Option.some.injEq, exists_eq_left']
    constructor
    · intro kept
      by_cases later : policy.cutoff now false ≤ last
      · exact .inl later
      · exact .inr ⟨kept, Int64.not_le.1 later⟩
    · rintro (later | ⟨kept, -⟩)
      · exact Int64.le_trans order later
      · exact kept

end Alerting
