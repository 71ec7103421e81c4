import Alerting.Group.Rules
import Alerting.Proofs.SortedMap
import Mathlib.Data.List.Sort

/-!
# Group keys are canonical

A group key lists its tag names in ascending order and once each, so it does not show in
which order, or how often, the rules name them. Two alerts have the same key exactly if they
come from one definition and agree on every named tag, which they also do where both lack it.
-/

namespace Alerting

/-! ## Distinct names in order -/

section SortedDistinct

variable {names others : List String}

theorem mem_sortedDistinct {name : String} : name ∈ sortedDistinct names ↔ name ∈ names := by
  rw [sortedDistinct, SortedMap.mem_keys_ofList, List.map_map]
  simp

theorem pairwise_sortedDistinct (names : List String) :
    (sortedDistinct names).Pairwise (· < ·) := by
  rw [sortedDistinct, SortedMap.keys, List.pairwise_map]
  exact (SortedMap.ofList _).ascending.imp compareOfLessAndEq_eq_lt.1

/-- The order and the repetitions of the names do not matter. -/
theorem sortedDistinct_congr (same : ∀ name, name ∈ names ↔ name ∈ others) :
    sortedDistinct names = sortedDistinct others := by
  apply (pairwise_sortedDistinct names).eq_of_mem_iff (pairwise_sortedDistinct others)
  intro name
  rw [mem_sortedDistinct, mem_sortedDistinct, same]

end SortedDistinct

/-- Alerts of one definition of which, for each of the tags, both have the same value or
neither has any. -/
structure Alert.AgreeOn (names : List String) (first second : Alert) : Prop where
  namespaceName : first.namespaceName = second.namespaceName
  alertId : first.alertId = second.alertId
  kind : first.kind = second.kind
  tags : ∀ name ∈ names, first.tags.get? name = second.tags.get? name

namespace GroupKey

variable {first second : Alert} {names others : List String}

theorem ofAlert_congr (alert : Alert) (same : ∀ name, name ∈ names ↔ name ∈ others) :
    ofAlert alert names = ofAlert alert others := by
  rw [ofAlert, ofAlert, sortedDistinct_congr same]

theorem ofAlert_eq_iff :
    ofAlert first names = ofAlert second names ↔ first.AgreeOn names second := by
  simp only [ofAlert, GroupKey.mk.injEq, List.map_inj_left, mem_sortedDistinct, true_and]
  constructor
  · rintro ⟨namespaceName, alertId, kind, tags⟩
    exact ⟨namespaceName, alertId, kind, tags⟩
  · rintro ⟨namespaceName, alertId, kind, tags⟩
    exact ⟨namespaceName, alertId, kind, tags⟩

/-! ## Grouping rules from anywhere -/

/-- The key of an alert under the rules that a provider tells. -/
def underProvider (provider : AlertId → Option (List String)) (alert : Alert) : GroupKey :=
  match provider alert.alertId with
  | some names => ofAlert alert names
  | none => ungrouped alert

/-- Without rules an alert is grouped by no tags. -/
theorem underProvider_eq (provider : AlertId → Option (List String)) (alert : Alert) :
    underProvider provider alert = ofAlert alert ((provider alert.alertId).getD []) := by
  rw [underProvider]
  cases provider alert.alertId <;> rfl

theorem underProvider_eq_iff (provider : AlertId → Option (List String)) :
    underProvider provider first = underProvider provider second ↔
      first.AgreeOn ((provider first.alertId).getD []) second := by
  rw [underProvider_eq, underProvider_eq]
  constructor
  · intro same
    have alertId : first.alertId = second.alertId := congrArg GroupKey.alertId same
    rw [← alertId] at same
    exact ofAlert_eq_iff.1 same
  · intro agree
    rw [← agree.alertId]
    exact ofAlert_eq_iff.2 agree

/--
Under names that differ in order and repetitions only, an alert has one group key. It lists
the names in strictly ascending order, and beside each the alert's value for it, or none. Two
alerts have the same key exactly if they agree on the names; so under the same grouping rules,
wherever these come from, exactly the alerts that agree on the tags of their definition share
a group.
-/
theorem group_keys_are_canonical (same : ∀ name, name ∈ names ↔ name ∈ others)
    (first second : Alert) :
    let key := ofAlert first names
    key = ofAlert first others ∧
    key.keys.Pairwise (· < ·) ∧
    (∀ name, name ∈ key.keys ↔ name ∈ names) ∧
    key.values.length = key.keys.length ∧
    (∀ place : Nat, key.values[place]? = key.keys[place]?.map first.tags.get?) ∧
    (key = ofAlert second others ↔ first.AgreeOn names second) ∧
    (∀ provider, underProvider provider first = underProvider provider second ↔
      first.AgreeOn ((provider first.alertId).getD []) second) ∧
    ∀ rules : GroupingRules, rules.keyOf first = rules.keyOf second ↔
      first.AgreeOn ((rules.get? first.alertId).getD []) second := by
  intro key
  refine ⟨ofAlert_congr first same, pairwise_sortedDistinct names, fun _ => mem_sortedDistinct,
    List.length_map _, fun _ => List.getElem?_map, ?_, underProvider_eq_iff,
    fun rules => underProvider_eq_iff rules.get?⟩
  rw [← ofAlert_congr second same]
  exact ofAlert_eq_iff

/-- A name that comes twice, a tag that both alerts lack, and one that is not asked for. -/
theorem group_keys_are_canonical_absent_tag :
    let names := ["host", "dc", "host"]
    let others := ["dc", "host"]
    let tags : Tags := SortedMap.ofList [("host", "A"), ("rack", "1")]
    let first : Alert := ⟨"prod", 7, .metric, 1, tags, .bad, .good, false, 0⟩
    let second : Alert := { first with tags := SortedMap.ofList [("host", "A"), ("rack", "2")] }
    (∀ name, name ∈ names ↔ name ∈ others) ∧ ofAlert first names = ofAlert second others ∧
      (ofAlert first names).keys = ["dc", "host"] ∧
      (ofAlert first names).values = [none, some "A"] := by
  intro names others tags first second
  have same (name : String) : name ∈ names ↔ name ∈ others := by
    simp only [names, others, List.mem_cons, List.not_mem_nil, or_false]
    rw [or_left_comm, or_self]
  have agree : first.AgreeOn names second := ⟨rfl, rfl, rfl, by decide +kernel⟩
  obtain ⟨-, -, -, -, -, equal, -⟩ := group_keys_are_canonical same first second
  exact ⟨same, equal.2 agree, by decide +kernel, by decide +kernel⟩

end GroupKey

end Alerting
