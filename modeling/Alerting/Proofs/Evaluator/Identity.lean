import Alerting.Proofs.Evaluator.Restart

/-!
# Identities of missing entities

The tags of a missing entity were stored when it was first seen, many cycles and perhaps a
restart ago. They still are tags that its identity derives from: whatever is stored was
observed under that identity, and an operation that is not a sighting changes no tags. So
an alert about a missing entity names the group that its live alerts were notified in.
-/

namespace Alerting

namespace Store

/-- Stored tags are ones that the entity has, and if identities are preserved, every stored
entity has some. -/
structure KeepsTags (store : Store) (has : EntityId → Tags → Prop) : Prop where
  stored : ∀ id tags, (store.entity id).tags = some tags → has id tags
  preserved : store.config.preservesIdentity = true →
    ∀ id, store.contains id = true → (store.entity id).tags ≠ none

namespace KeepsTags

variable {store after : Store} {has : EntityId → Tags → Prop}

theorem empty (config : StoreConfig) (policy : TransitionPolicy) (has : EntityId → Tags → Prop) :
    (Store.empty config policy).KeepsTags has where
  stored _ _ tagged := by cases tagged
  preserved _ _ contained := by cases contained

/-- A store with the same entities and the same tags keeps them too. -/
theorem congr (keeps : store.KeepsTags has) (config : after.config = store.config)
    (contains : ∀ id, after.contains id = store.contains id)
    (tags : ∀ id, (after.entity id).tags = (store.entity id).tags) : after.KeepsTags has := by
  constructor
  · intro id
    rw [tags]
    exact keeps.stored id
  · intro preserves id
    rw [contains, tags]
    exact keeps.preserved (config ▸ preserves) id

/-- A sighting stores the first tags of an entity. -/
theorem see (keeps : store.KeepsTags has) {id : EntityId} {tags : Tags} (tagged : has id tags)
    (seen : Instant) : (store.see id tags seen).KeepsTags has := by
  constructor
  · intro other found
    by_cases same : other = id
    · subst same
      rw [entity_see_self]
      cases known : (store.entity other).tags with
      | some _ =>
        intro held
        simp only [Entity.see, known, Option.some.injEq] at held
        exact held ▸ keeps.stored other _ known
      | none =>
        intro held
        simp only [Entity.see, known, Option.ite_none_right_eq_some, Option.some.injEq] at held
        exact held.2 ▸ tagged
    · rw [entity_see_of_ne store id tags seen same]
      exact keeps.stored other found
  · intro preserves other
    by_cases same : other = id
    · subst same
      intro _
      rw [entity_see_self]
      simp only [Entity.see, show store.config.preservesIdentity = true from preserves, if_true]
      cases (store.entity other).tags <;> simp
    · rw [contains_see, entity_see_of_ne store id tags seen same]
      simpa [same] using keeps.preserved preserves other

/-- Deciding about a stored entity changes no tags. -/
theorem raise (keeps : store.KeepsTags has) {id : EntityId} (contained : store.contains id = true)
    (new : Severity) (now : Instant) : (store.raise id new now).2.KeepsTags has := by
  apply keeps.congr
  case config => exact config_raise store id new now
  case contains =>
    intro other
    rw [contains_raise]
    by_cases same : other = id <;> simp [same, contained]
  case tags =>
    intro other
    exact store.tags_raise id other new now

theorem newRun (keeps : store.KeepsTags has) : store.newRun.KeepsTags has :=
  keeps.congr rfl (fun _ => rfl) fun _ => rfl

/-- A purge takes the tags of what it removes. -/
theorem purge (keeps : store.KeepsTags has) (cutoff : Instant) :
    (store.purge cutoff).2.KeepsTags has := by
  constructor
  · intro id tags
    rw [entity_purge]
    split
    · intro tagged
      cases tagged
    · exact keeps.stored id tags
  · intro preserves id contained
    rw [contains_purge, Bool.and_eq_true, Bool.not_eq_true'] at contained
    rw [entity_purge, contained.2]
    exact keeps.preserved preserves id contained.1

end KeepsTags

end Store

/-- Alerts of one definition with the same tags have the same key. -/
theorem GroupingRules.keyOf_congr (rules : GroupingRules) {first second : Alert}
    (namespaceName : first.namespaceName = second.namespaceName)
    (alertId : first.alertId = second.alertId) (kind : first.kind = second.kind)
    (tags : first.tags = second.tags) : rules.keyOf first = rules.keyOf second := by
  simp only [keyOf, GroupKey.ungrouped, GroupKey.ofAlert, namespaceName, alertId, kind, tags]

namespace Evaluator

/-! ## Cycles -/

/-- Some observation that the evaluator takes for the entity carries the tags. -/
def Has (evaluator : Evaluator) (observed : Observation → Prop) (id : EntityId) (tags : Tags) :
    Prop :=
  ∃ observation, observed observation ∧ observation.tags = tags ∧
    evaluator.identify observation = id

section Cycle

variable {evaluator : Evaluator} {observed : Observation → Prop} {store : Store}

theorem keepsTags_applyAll (now : Instant) {batch : List Observation}
    (known : ∀ observation ∈ batch, observed observation)
    (keeps : store.KeepsTags (evaluator.Has observed)) :
    (evaluator.applyAll now batch store).2.KeepsTags (evaluator.Has observed) := by
  induction batch generalizing store with
  | nil => exact keeps
  | cons observation rest ih =>
    have has : evaluator.Has observed (evaluator.identify observation) observation.tags :=
      ⟨observation, known observation List.mem_cons_self, rfl, rfl⟩
    have settled : (evaluator.settle now store observation).KeepsTags (evaluator.Has observed) := by
      apply (keeps.see has observation.timestamp).raise
      rw [Store.contains_see]
      simp
    rw [applyAll_cons]
    exact ih (fun other member => known other (List.mem_cons_of_mem _ member)) settled

theorem keepsTags_detectMissing (now : Instant) (keeps : store.KeepsTags (evaluator.Has observed)) :
    (evaluator.detectMissing now store).2.KeepsTags (evaluator.Has observed) := by
  apply keeps.congr (evaluator.config_detectMissing now store)
    (evaluator.contains_detectMissing now store)
  intro id
  simp only [detectMissing]
  cases evaluator.staleness with
  | none => rfl
  | some limit => exact limit.tags_detect store now id

end Cycle

/-! ## Every course of events -/

/-- What a fresh evaluator can become: it gathers observations, runs cycles under any rules,
and is replaced by a fresh one that takes over its records. -/
inductive Lineage (fresh : Evaluator) (observed : Observation → Prop) : Evaluator → Prop where
  | fresh : Lineage fresh observed fresh
  | observe {evaluator : Evaluator} (lineage : Lineage fresh observed evaluator)
      {observation : Observation} (seen : observed observation) :
      Lineage fresh observed (evaluator.observe observation)
  | cycle {evaluator : Evaluator} (lineage : Lineage fresh observed evaluator)
      (rule : CutoffRule) (now : Instant) :
      Lineage fresh observed (evaluator.cycleUnder rule now).2
  | restart {evaluator : Evaluator} (lineage : Lineage fresh observed evaluator) :
      Lineage fresh observed (fresh.restore evaluator.records)

/-- The settings of a fresh evaluator, with observed observations and observed tags. -/
structure StemsFrom (fresh : Evaluator) (observed : Observation → Prop) (evaluator : Evaluator) :
    Prop where
  same : SameSettings evaluator fresh
  pending : ∀ observation ∈ evaluator.pending, observed observation
  keeps : evaluator.store.KeepsTags (evaluator.Has observed)

section Lineage

variable {fresh evaluator : Evaluator} {observed : Observation → Prop}

theorem SameSettings.has_eq {first second : Evaluator} (same : SameSettings first second)
    (observed : Observation → Prop) : first.Has observed = second.Has observed := by
  funext id tags
  rw [Has, Has, same.identify]

theorem StemsFrom.afterBatch (stems : StemsFrom fresh observed evaluator) (now : Instant) :
    (evaluator.afterBatch now).KeepsTags (evaluator.Has observed) :=
  keepsTags_applyAll now
    (fun observation member => stems.pending observation ((mem_newestFirst _).1 member))
    stems.keeps.newRun

theorem StemsFrom.cycle (stems : StemsFrom fresh observed evaluator) (rule : CutoffRule)
    (now : Instant) : StemsFrom fresh observed (evaluator.cycleUnder rule now).2 := by
  have same := evaluator.sameSettings_cycleUnder now rule
  refine ⟨same.trans stems.same, by simp, ?_⟩
  rw [same.has_eq]
  exact (keepsTags_detectMissing now (stems.afterBatch now)).purge _

/-- A fresh evaluator that takes over records stores what the old one stored. -/
theorem StemsFrom.restart (blank : fresh.blank = fresh)
    (stems : StemsFrom fresh observed evaluator) :
    StemsFrom fresh observed (fresh.restore evaluator.records) := by
  have store : (fresh.restore evaluator.records).store = evaluator.store.newRun := by
    rw [← evaluator.store.restore_records, ← blank, ← stems.same.blank_eq]
    rfl
  have same : SameSettings (fresh.restore evaluator.records) evaluator := by
    have old := stems.same
    exact ⟨old.alertId.symm, old.namespaceName.symm, old.kind.symm, old.staleness.symm,
      store ▸ rfl, store ▸ rfl⟩
  refine ⟨same.trans stems.same, ?_, ?_⟩
  · rw [← blank]
    intro observation waiting
    cases waiting
  · rw [store, same.has_eq]
    exact stems.keeps.newRun

/-- Along every course of events the stored tags are observed ones. -/
theorem Lineage.stemsFrom (blank : fresh.blank = fresh)
    (lineage : Lineage fresh observed evaluator) : StemsFrom fresh observed evaluator := by
  induction lineage with
  | fresh =>
    refine ⟨⟨rfl, rfl, rfl, rfl, rfl, rfl⟩, ?_, ?_⟩
    · rw [← blank]
      intro observation waiting
      cases waiting
    · rw [← blank]
      exact .empty _ _ _
  | observe _ seen ih =>
    refine ⟨⟨ih.same.alertId, ih.same.namespaceName, ih.same.kind, ih.same.staleness,
      ih.same.config, ih.same.policy⟩, ?_, ih.keeps⟩
    intro observation waiting
    rcases List.mem_cons.1 waiting with rfl | before
    · exact seen
    · exact ih.pending observation before
  | cycle _ rule now ih => exact ih.cycle rule now
  | restart _ ih => exact ih.restart blank

end Lineage

/-! ## What alerts say about identities -/

section Alerts

variable {fresh evaluator : Evaluator} {observed : Observation → Prop} {now : Instant}
  {alert : Alert}

/-- A live alert carries the tags of an observation about its entity. -/
theorem StemsFrom.has_of_mem_live (stems : StemsFrom fresh observed evaluator)
    (member : alert ∈ evaluator.live now) : evaluator.Has observed alert.entity alert.tags := by
  rcases mem_live.1 member with ⟨newest, isNewest, called⟩
  exact ⟨newest, stems.pending newest isNewest.mem, (alert?_eq_some called).2.1.symm,
    isNewest.identify_eq⟩

/-- If identities are preserved, an alert about a missing entity carries such tags as well. -/
theorem StemsFrom.has_of_mem_missing (stems : StemsFrom fresh observed evaluator)
    (preserves : evaluator.store.config.preservesIdentity = true)
    (member : alert ∈ evaluator.missing now) :
    evaluator.Has observed alert.entity alert.tags := by
  rw [missing_eq, detectMissing] at member
  cases limited : evaluator.staleness with
  | none => simp [limited] at member
  | some limit =>
    rw [limited] at member
    rcases List.mem_map.1 member with ⟨reported, inReport, rfl⟩
    rcases (limit.mem_detect _ now).1 inReport with ⟨-, seen, tags, -⟩
    have keeps := stems.afterBatch now
    have known := keeps.preserved (by rw [config_afterBatch, preserves]) reported.entity
      (Store.contains_of_lastSeen seen)
    rcases Option.ne_none_iff_exists'.1 known with ⟨kept, held⟩
    rw [alertOf, tags, held]
    exact keeps.stored reported.entity kept held

/-- The identity of an entity derives from each of its observed tag maps. -/
theorem StemsFrom.eq_entityId (stems : StemsFrom fresh observed evaluator) {id : EntityId}
    {tags : Tags} (has : evaluator.Has observed id tags) :
    id = entityId fresh.namespaceName fresh.alertId tags ∧
      ∃ observation, observed observation ∧ observation.tags = tags := by
  rcases has with ⟨observation, seen, rfl, rfl⟩
  rw [identify, stems.same.namespaceName, stems.same.alertId]
  exact ⟨rfl, observation, seen, rfl⟩

/-- Evaluators of one definition give alerts with the same tags the same group key. -/
theorem StemsFrom.keyOf_eq {other : Evaluator} (stems : StemsFrom fresh observed evaluator)
    (otherStems : StemsFrom fresh observed other) {later : Instant} {otherAlert : Alert}
    (member : alert ∈ evaluator.live now ++ evaluator.missing now)
    (otherMember : otherAlert ∈ other.live later ++ other.missing later)
    (tags : alert.tags = otherAlert.tags) (rules : GroupingRules) :
    rules.keyOf alert = rules.keyOf otherAlert := by
  have same := stems.same.trans otherStems.same.symm
  rcases exists_alertOf_of_mem_alerts member with ⟨_, _, _, rfl⟩
  rcases exists_alertOf_of_mem_alerts otherMember with ⟨_, _, _, rfl⟩
  exact rules.keyOf_congr same.namespaceName same.alertId same.kind tags

end Alerts

/-- An evaluator preserves identities if its definition says so. -/
theorem preservesIdentity_of_ofDefinition {definition : AlertDefinition} {fresh : Evaluator}
    (built : ofDefinition definition = .ok fresh) :
    fresh.store.config.preservesIdentity = definition.preservesIdentity := by
  rcases bind_eq_ok.1 built with ⟨config, configured, rest⟩
  rcases bind_eq_ok.1 rest with ⟨staleness, -, rest⟩
  cases rest
  rw [AlertDefinition.storeConfig] at configured
  split at configured
  · cases configured
  · cases configured
    rfl

/--
Whatever happens to the evaluator of a definition, restarts included: the identity of a live
alert derives from its tags, and so does that of a stored entity with tags. If identities are
preserved, this holds of alerts about missing entities too, and their tags were observed; so
if no two observed tag maps share an identity, such an alert has the group key of every live
alert about its entity, under all grouping rules.
-/
theorem missing_alerts_keep_identity (definition : AlertDefinition) {fresh : Evaluator}
    (built : ofDefinition definition = .ok fresh) (observed : Observation → Prop)
    (evaluator : Evaluator) (lineage : Lineage fresh observed evaluator) (now : Instant) :
    let identity := entityId definition.namespaceName definition.id
    (∀ rule, (evaluator.cycleUnder rule now).1.alerts =
      evaluator.live now ++ evaluator.missing now) ∧
    (∀ alert ∈ evaluator.live now, alert.entity = identity alert.tags) ∧
    (∀ id entity tags, evaluator.store.stored? id = some entity → entity.tags = some tags →
      id = identity tags) ∧
    (definition.preservesIdentity = true →
      (∀ alert ∈ evaluator.missing now, alert.entity = identity alert.tags ∧
        ∃ observation, observed observation ∧ observation.tags = alert.tags) ∧
      ((∀ first second, observed first → observed second →
          identity first.tags = identity second.tags → first.tags = second.tags) →
        ∀ other, Lineage fresh observed other → ∀ later, ∀ live ∈ other.live later,
          ∀ alert ∈ evaluator.missing now, live.entity = alert.entity →
            ∀ rules : GroupingRules, rules.keyOf alert = rules.keyOf live)) := by
  intro identity
  have blank := blank_of_ofDefinition built
  have stems := lineage.stemsFrom blank
  obtain ⟨alertId, namespaceName, -⟩ := ofDefinition_eq_ok built
  have derives {evaluator : Evaluator} (lineage : Lineage fresh observed evaluator)
      {id : EntityId} {tags : Tags} (has : evaluator.Has observed id tags) :
      id = identity tags ∧ ∃ observation, observed observation ∧ observation.tags = tags := by
    have derived := (lineage.stemsFrom blank).eq_entityId has
    rwa [namespaceName, alertId] at derived
  refine ⟨fun _ => rfl, ?_, ?_, ?_⟩
  · intro alert member
    exact (derives lineage (stems.has_of_mem_live member)).1
  · intro id entity tags stored tagged
    refine (derives lineage (stems.keeps.stored id tags ?_)).1
    rw [Store.entity_eq_stored?, stored]
    exact tagged
  · intro preserves
    have config : evaluator.store.config.preservesIdentity = true := by
      rw [stems.same.config, preservesIdentity_of_ofDefinition built, preserves]
    have known {alert : Alert} (member : alert ∈ evaluator.missing now) :=
      derives lineage (stems.has_of_mem_missing config member)
    refine ⟨fun alert member => known member, ?_⟩
    intro distinct other otherLineage later live inLive alert inMissing about rules
    have otherStems := otherLineage.stemsFrom blank
    rcases known inMissing with ⟨missingId, first, firstSeen, firstTags⟩
    rcases derives otherLineage (otherStems.has_of_mem_live inLive) with
      ⟨liveId, second, secondSeen, secondTags⟩
    have tags : first.tags = second.tags := by
      apply distinct first second firstSeen secondSeen
      rw [firstTags, secondTags, ← missingId, ← liveId, about]
    exact stems.keyOf_eq otherStems (List.mem_append_right _ inMissing)
      (List.mem_append_left _ inLive) (firstTags ▸ secondTags ▸ tags) rules

/-- A host that falls silent across a restart is told about in its old group. -/
theorem missing_alerts_keep_identity_restarted :
    let definition : AlertDefinition := { id := 7, preservesIdentity := true, missingAfter := some 60 }
    let observation : Observation := ⟨none, 7, SortedMap.ofList [("host", "a")], .bad, 100⟩
    ∃ fresh, ofDefinition definition = .ok fresh ∧
      let before := fresh.observe observation
      let after := fresh.restore (before.cycleUnder (fun now _ => now.ago 600) 100).2.records
      ∃ live ∈ before.live 100, ∃ alert ∈ after.missing 200,
        live.entity = alert.entity ∧ alert.entity = entityId "default" 7 alert.tags ∧
          ∀ rules : GroupingRules, rules.keyOf alert = rules.keyOf live := by
  intro definition observation
  obtain ⟨fresh, built⟩ : ∃ fresh, ofDefinition definition = .ok fresh := ⟨_, rfl⟩
  refine ⟨fresh, built, ?_⟩
  intro before after
  have observed : Lineage fresh (· = observation) before := .observe .fresh rfl
  have restarted : Lineage fresh (· = observation) after :=
    (observed.cycle (fun now _ => now.ago 600) 100).restart
  obtain ⟨live, inLive, alert, inMissing, about⟩ : ∃ live ∈ before.live 100,
      ∃ alert ∈ after.missing 200, live.entity = alert.entity := by
    cases built
    decide +kernel
  rcases missing_alerts_keep_identity definition built (· = observation) after restarted 200 with
    ⟨-, -, -, keeps⟩
  rcases keeps rfl with ⟨derives, sameGroup⟩
  refine ⟨live, inLive, alert, inMissing, about, (derives alert inMissing).1, ?_⟩
  apply sameGroup _ before observed 100 live inLive alert inMissing about
  intro first second isFirst isSecond _
  rw [isFirst, isSecond]

end Evaluator

end Alerting
