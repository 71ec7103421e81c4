import Alerting.Proofs.Purge
import Alerting.Proofs.Store.Detection

/-!
# Longer durations

Purge windows, staleness limits and nag intervals are lengths of time, and of two of them
the longer one never acts first, as long as it is a signed word. One that is longer than
every signed word counts as negative: its instants lie ahead, and what has just been seen is
already too old for it.
-/

namespace Alerting

/-! ## Spans that are signed words, and others -/

section Spans

variable {span : Seconds} {now : Instant}

/-- A span beyond the largest signed word is read as a negative one. -/
theorem Seconds.toInt_toInt64_neg (beyond : Int64.maxValue.toInt < span.toNat) :
    span.toInt64.toInt < 0 := by
  have largest : Int64.maxValue.toInt = 9223372036854775807 := rfl
  have bounded : span.toNat < 18446744073709551616 := span.toBitVec.isLt
  rw [Int64.toInt, UInt64.toBitVec_toInt64, BitVec.toInt_eq_toNat_cond, UInt64.toNat_toBitVec]
  split <;> omega

/-- A span that is a signed word does not lead ahead. -/
theorem Instant.ago_le (fits : (span.toNat : Int) ≤ Int64.maxValue.toInt) (now : Instant) :
    now.ago span ≤ now := by
  have here : now.ago 0 = now := by
    have zero : (0 : Seconds).toInt64.toInt = 0 := rfl
    rw [ago, since, zero, Int.sub_zero, Int64.ofIntClamp_toInt]
  have back := ago_le_ago UInt64.zero_le fits now
  rwa [here] at back

/-- A span beyond the largest signed word leads ahead, unless there is no later instant. -/
theorem Instant.lt_ago (beyond : Int64.maxValue.toInt < span.toNat) (later : now < Int64.maxValue) :
    now < now.ago span := by
  have negative := Seconds.toInt_toInt64_neg beyond
  rw [Int64.lt_iff_toInt_lt] at later
  have next : (Int64.ofIntClamp (now.toInt + 1)).toInt = now.toInt + 1 := by
    have lowest := Int64.minValue_le_toInt now
    apply Int64.toInt_ofIntClamp <;> omega
  have le : Int64.ofIntClamp (now.toInt + 1) ≤ now.ago span := by
    apply ofIntClamp_le_ofIntClamp
    omega
  rw [Int64.le_iff_toInt_le, next] at le
  rw [Int64.lt_iff_toInt_lt]
  omega

end Spans

/-! ## Purges -/

namespace Store

variable {store : Store} {id : EntityId} {last now : Instant}

/-- A purge with a later cutoff forgets more. -/
theorem Forgets.mono {earlier later : Instant} (forgets : store.Forgets earlier id)
    (le : earlier ≤ later) : store.Forgets later id := by
  obtain ⟨last, seen, older⟩ := forgets_iff_lastSeen.1 forgets
  exact forgets_iff_lastSeen.2 ⟨last, seen, Int64.lt_of_lt_of_le older le⟩

theorem not_forgets_of_le {cutoff : Instant} (seen : (store.entity id).lastSeen = some last)
    (le : cutoff ≤ last) : ¬ store.Forgets cutoff id := by
  intro forgets
  obtain ⟨other, alsoSeen, older⟩ := forgets_iff_lastSeen.1 forgets
  obtain rfl : last = other := Option.some.inj (seen.symm.trans alsoSeen)
  exact Int64.not_lt.2 le older

end Store

/-! ## Missing entities -/

namespace StalenessLimit

variable {limit : StalenessLimit} {store : Store} {id : EntityId} {now : Instant}

/-- What is stale under a longer limit is stale under a shorter one. -/
theorem mem_stale_of_le {lenient strict : StalenessLimit} (le : strict.seconds ≤ lenient.seconds)
    (fits : (lenient.seconds.toNat : Int) ≤ Int64.maxValue.toInt) {sighting : EntityId × Instant}
    (stale : sighting ∈ lenient.stale store now) : sighting ∈ strict.stale store now := by
  rw [mem_stale] at stale ⊢
  exact ⟨stale.1, Int64.lt_of_lt_of_le stale.2 (Instant.ago_le_ago le fits now)⟩

theorem isStale_eq_false {last : Instant} (seen : (store.entity id).lastSeen = some last)
    (le : limit.deadline now ≤ last) : limit.isStale now (store.entity id) = false := by
  rw [isStale, seen, Option.any_some, decide_eq_false_iff_not]
  exact Int64.not_lt.2 le

end StalenessLimit

/-! ## Repeats -/

/-- What is due after a longer interval is due after a shorter one. -/
theorem NagInterval.isDue_of_le {shorter longer : Seconds} (le : shorter ≤ longer)
    (fits : (longer.toNat : Int) ≤ Int64.maxValue.toInt) {now last : Instant}
    (due : (every longer).isDue now last = true) : (every shorter).isDue now last = true := by
  have lengths : shorter.toNat ≤ longer.toNat := UInt64.le_iff_toNat_le.1 le
  rw [isDue_every_iff fits] at due
  rw [isDue_every_iff (Int.le_trans (Int.ofNat_le.2 lengths) fits)]
  omega

namespace Store

/-- The store under another nag interval. -/
def withNagInterval (store : Store) (interval : NagInterval) : Store :=
  { store with config := { store.config with nagInterval := interval } }

/-- A repeat is the answer to the first call about an entity whose severity lasts and is
unhealthy, if the policy accepts it and the interval is over. -/
theorem isNag_raise_iff {store : Store} {id : EntityId} {new : Severity} {now : Instant} :
    (store.raise id new now).1.isNag = true ↔
      store.isDecided id = false ∧ new = (store.entity id).current ∧ new.isHealthy = false ∧
        store.policy (store.entity id).previous new = true ∧
        store.config.nagInterval.isDue now (store.entity id).nagTimestamp = true := by
  cases decided : store.isDecided id with
  | true => simp [raise_of_isDecided decided, StateChange.silent]
  | false =>
    rw [fst_raise_of_not_isDecided decided, Entity.evaluate_eq]
    simp only [Bool.and_eq_true, decide_eq_true_eq, Entity.notifies_iff]
    constructor
    · rintro ⟨same, ⟨different, -⟩ | ⟨-, repeats⟩⟩
      · exact absurd same different
      · exact ⟨trivial, same, repeats⟩
    · rintro ⟨-, same, repeats⟩
      exact ⟨same, .inr ⟨same, repeats⟩⟩

end Store

/-- Of two durations that are signed words, the longer one never makes anything happen
sooner. What a purge with the longer window forgets, one with the shorter window forgets as
well, and so the first purge after a start, whose window is the longer one, forgets nothing
that a later purge at the same time would keep. What is stale under the longer limit is stale
under the shorter one. Where a repeat is due after the longer interval, it is due after the
shorter one. And what was seen at the present time or later is neither forgotten nor missing. -/
theorem longer_durations_act_no_sooner (shorter longer : Seconds) (le : shorter ≤ longer)
    (fits : (longer.toNat : Int) ≤ Int64.maxValue.toInt) (store : Store) (now : Instant) :
    (∀ (lenient strict : PurgePolicy) (lenientFirst strictFirst : Bool),
      lenient.windowAt lenientFirst = longer → strict.windowAt strictFirst = shorter →
      ∀ id, store.Forgets (lenient.cutoff now lenientFirst) id →
        store.Forgets (strict.cutoff now strictFirst) id) ∧
    (∀ lenient strict : StalenessLimit, lenient.seconds = longer → strict.seconds = shorter →
      ∀ sighting ∈ lenient.stale store now, sighting ∈ strict.stale store now) ∧
    (∀ id new, ((store.withNagInterval (.every longer)).raise id new now).1.isNag = true →
      ((store.withNagInterval (.every shorter)).raise id new now).1.isNag = true) ∧
    (∀ id last, (store.entity id).lastSeen = some last → now ≤ last →
      (∀ (policy : PurgePolicy) (isFirstRun : Bool), policy.windowAt isFirstRun = longer →
        ¬ store.Forgets (policy.cutoff now isFirstRun) id) ∧
      ∀ limit : StalenessLimit, limit.seconds = longer →
        (limit.detect store now).2.slot id = store.slot id ∧
        ∀ reported ∈ (limit.detect store now).1, reported.entity ≠ id) := by
  refine ⟨?_, ?_, ?_, ?_⟩
  · intro lenient strict lenientFirst strictFirst lenientWindow strictWindow id forgets
    subst lenientWindow strictWindow
    exact forgets.mono (Instant.ago_le_ago le fits now)
  · intro lenient strict lenientLimit strictLimit sighting stale
    subst lenientLimit strictLimit
    exact StalenessLimit.mem_stale_of_le le fits stale
  · intro id new repeated
    rw [Store.isNag_raise_iff] at repeated ⊢
    rcases repeated with ⟨undecided, same, unhealthy, accepted, due⟩
    exact ⟨undecided, same, unhealthy, accepted, NagInterval.isDue_of_le le fits due⟩
  · intro id last seen recent
    constructor
    · intro policy isFirstRun window
      subst window
      exact Store.not_forgets_of_le seen (Int64.le_trans (Instant.ago_le fits now) recent)
    · intro limit length
      subst length
      have fresh : limit.isStale now (store.entity id) = false :=
        StalenessLimit.isStale_eq_false seen (Int64.le_trans (Instant.ago_le fits now) recent)
      constructor
      · rw [StalenessLimit.slot_detect, fresh, if_neg Bool.false_ne_true]
      · intro reported member about
        have none := StalenessLimit.filter_detect_of_not_isStale fresh
        exact List.filter_eq_nil_iff.1 none reported member (decide_eq_true about)

/-- An entity that was last seen some days ago is forgotten under both of two windows, of which
the longer one is the largest signed word, and one that was just seen is not. -/
theorem longer_durations_act_no_sooner_largest_word :
    let longer : Seconds := 9223372036854775807
    let policy : PurgePolicy := ⟨60, longer, by decide, by decide⟩
    let store := (Store.empty ⟨.never, false⟩ TransitionRules.unhealthyOnly.policy).restore
      [{ entity := 5, lastSeen := some (-9223372036854775808) },
        { entity := 6, lastSeen := some 1000 }]
    (60 : Seconds) ≤ longer ∧ (longer.toNat : Int) ≤ Int64.maxValue.toInt ∧
      store.Forgets (policy.cutoff 1000 true) 5 ∧ store.Forgets (policy.cutoff 1000 false) 5 ∧
      (1000 : Instant) ≤ 1000 ∧ ¬ store.Forgets (policy.cutoff 1000 true) 6 := by
  intro longer policy store
  have le : (60 : Seconds) ≤ longer := by decide
  have fits : (longer.toNat : Int) ≤ Int64.maxValue.toInt := by decide
  have forgets : store.Forgets (policy.cutoff 1000 true) 5 := by decide +kernel
  have seen : (store.entity 6).lastSeen = some 1000 := by decide +kernel
  rcases longer_durations_act_no_sooner 60 longer le fits store 1000 with ⟨purges, -, -, recent⟩
  refine ⟨le, fits, forgets, purges policy policy true false rfl rfl 5 forgets, by decide, ?_⟩
  exact (recent 6 1000 seen (by decide)).1 policy true rfl

/-- A duration beyond the largest signed word is over at once. What is seen at the present time,
unless there is no later one, is forgotten and stale at that time, and a repeat is due from the
time of a notification on. -/
theorem duration_beyond_words_is_over {longer : Seconds}
    (beyond : Int64.maxValue.toInt < longer.toNat) {now : Instant} (later : now < Int64.maxValue)
    {store : Store} {id : EntityId} (seen : (store.entity id).lastSeen = some now) :
    (∀ (policy : PurgePolicy) (isFirstRun : Bool), policy.windowAt isFirstRun = longer →
      store.Forgets (policy.cutoff now isFirstRun) id) ∧
    (∀ limit : StalenessLimit, limit.seconds = longer → (id, now) ∈ limit.stale store now) ∧
    ∀ last ≤ now, (NagInterval.every longer).isDue now last = true := by
  have ahead : now < now.ago longer := Instant.lt_ago beyond later
  refine ⟨?_, ?_, ?_⟩
  · intro policy isFirstRun window
    subst window
    exact Store.forgets_iff_lastSeen.2 ⟨now, seen, ahead⟩
  · intro limit length
    subst length
    exact StalenessLimit.mem_stale.2 ⟨seen, ahead⟩
  · intro last le
    have negative := Seconds.toInt_toInt64_neg beyond
    have passed : 0 ≤ (now.since last).toInt := by
      have zero : (Int64.ofIntClamp 0).toInt = 0 := by decide
      rw [Int64.le_iff_toInt_le, ← Int.sub_nonneg] at le
      rw [← zero, ← Int64.le_iff_toInt_le]
      exact Instant.ofIntClamp_le_ofIntClamp le
    rw [NagInterval.isDue, decide_eq_true_eq, Int64.lt_iff_toInt_lt]
    exact Int.lt_of_lt_of_le negative passed

/-- Of two durations that are accepted, a longer one that is no signed word acts on an entity
at the very time when it was seen and told about, and the shorter one does not: it is forgotten,
it is stale, and it is told about again. -/
theorem longer_duration_acts_sooner :
    let longer : Seconds := 9223372036854775808
    let policy : PurgePolicy := ⟨60, longer, by decide, by decide⟩
    let strict : StalenessLimit := ⟨60, by decide⟩
    let lenient : StalenessLimit := ⟨longer, by decide⟩
    let store := (Store.empty ⟨.never, false⟩ TransitionRules.unhealthyOnly.policy).restore
      [{ entity := 5, current := some .bad, lastSeen := some 1000, nagTimestamp := some 1000 }]
    (PurgePolicy.ofWindows 60 longer = .ok policy ∧
      StalenessLimit.ofSeconds longer = .ok lenient ∧
      NagInterval.ofSeconds (some longer) = .ok (.every longer)) ∧
    (store.Forgets (policy.cutoff 1000 true) 5 ∧ ¬ store.Forgets (policy.cutoff 1000 false) 5) ∧
    ((5, 1000) ∈ lenient.stale store 1000 ∧ (5, 1000) ∉ strict.stale store 1000) ∧
    ((store.withNagInterval (.every longer)).raise 5 .bad 1000).1.isNag = true ∧
    ((store.withNagInterval (.every 60)).raise 5 .bad 1000).1.isNag = false := by
  decide +kernel

end Alerting
