import Alerting.SortedMap

/-!
# Sorted maps through their look-ups

A map is determined by what it answers when it is looked into. Later developments use the
equations of the look-ups and never the list of entries behind a map.
-/

namespace Alerting.SortedMap

universe u v

open Std

variable {κ : Type u} {ν : Type v} [Ord κ] [LawfulEqOrd κ]

omit [LawfulEqOrd κ] in
theorem mapValues_mapValues {μ ρ : Type v} (first : ν → μ) (second : μ → ρ)
    (map : SortedMap κ ν) :
    (map.mapValues first).mapValues second = map.mapValues fun value => second (first value) := by
  apply ext
  simp only [mapValues, List.map_map]
  rfl

/-- Of an ascending list, at most the one entry that is found carries a key. -/
theorem filter_key_eq_find? [DecidableEq κ] {entries : List (κ × ν)} (key : κ)
    (ascending : entries.Pairwise fun earlier later => compare earlier.1 later.1 = .lt) :
    entries.filter (fun entry => entry.1 = key) =
      ((find? key entries).map fun value => (key, value)).toList := by
  induction entries with
  | nil => rfl
  | cons first rest ih =>
    rcases first with ⟨candidate, old⟩
    rcases List.pairwise_cons.1 ascending with ⟨below, tail⟩
    simp only [find?]
    split
    · rename_i same
      have equal : key = candidate := LawfulEqCmp.eq_of_compare same
      subst equal
      have absent : rest.filter (fun entry => entry.1 = key) = [] := by
        rw [List.filter_eq_nil_iff]
        intro entry member
        have less := below entry member
        simp only [decide_eq_true_eq]
        intro equal
        simp [equal] at less
      simp [absent]
    · rename_i different
      have unequal : candidate ≠ key := by
        intro equal
        exact different (equal ▸ compare_self)
      rw [List.filter_cons_of_neg (by simpa using unequal), ih tail]

theorem filter_key_toList [DecidableEq κ] (map : SortedMap κ ν) (key : κ) :
    map.toList.filter (fun entry => entry.1 = key) =
      ((map.get? key).map fun value => (key, value)).toList :=
  filter_key_eq_find? key map.ascending

/-- Of what the entries contribute, the part that comes from one key. -/
theorem flatMap_key_toList {α : Type u} [DecidableEq κ] (map : SortedMap κ ν) (key : κ)
    (parts : ν → List α) :
    (map.toList.flatMap fun entry => if entry.1 = key then parts entry.2 else []) =
      ((map.get? key).map parts).getD [] := by
  have filtered (entries : List (κ × ν)) :
      (entries.flatMap fun entry => if entry.1 = key then parts entry.2 else []) =
        (entries.filter fun entry => entry.1 = key).flatMap fun entry => parts entry.2 := by
    induction entries with
    | nil => rfl
    | cons first rest ih =>
      by_cases same : first.1 = key
      · simp [same, ih]
      · simp [same, ih]
  rw [filtered, filter_key_toList]
  cases map.get? key <;> simp

theorem mem_keys {map : SortedMap κ ν} {key : κ} :
    key ∈ map.keys ↔ (map.get? key).isSome = true := by
  simp only [keys, List.mem_map, Option.isSome_iff_exists, ← mem_toList]
  constructor
  · rintro ⟨⟨found, value⟩, member, rfl⟩
    exact ⟨value, member⟩
  · rintro ⟨value, member⟩
    exact ⟨(key, value), member, rfl⟩

theorem nodup_keys (map : SortedMap κ ν) : map.keys.Nodup :=
  List.pairwise_map.2 (map.ascending.imp fun {earlier later} less equal => by simp [equal] at less)

variable [TransOrd κ]

/-- Two maps with the same look-ups are equal. -/
theorem eq_of_get?_eq {first second : SortedMap κ ν}
    (same : ∀ key, first.get? key = second.get? key) : first = second := by
  have antisymmetric (earlier later : κ × ν) (_ : earlier ∈ first.toList)
      (_ : later ∈ second.toList) (less : compare earlier.1 later.1 = .lt)
      (greater : compare later.1 earlier.1 = .lt) : earlier = later :=
    absurd greater (OrientedCmp.not_lt_of_lt less)
  have distinct (map : SortedMap κ ν) : map.toList.Nodup :=
    (List.pairwise_map.1 map.nodup_keys).imp fun different => mt (congrArg Prod.fst) different
  have permuted : first.toList.Perm second.toList := by
    rw [List.perm_ext_iff_of_nodup (distinct first) (distinct second)]
    rintro ⟨key, value⟩
    rw [mem_toList, mem_toList, same key]
  exact ext (List.Perm.eq_of_pairwise antisymmetric first.ascending second.ascending permuted)

/-! ## Maps of lists -/

theorem get?_foldl_insert [DecidableEq κ] {entries : List (κ × ν)}
    (distinct : (entries.map Prod.fst).Nodup) (map : SortedMap κ ν) {key : κ} {value : ν} :
    (entries.foldl (fun map entry => map.insert entry.1 entry.2) map).get? key = some value ↔
      (key, value) ∈ entries ∨ key ∉ entries.map Prod.fst ∧ map.get? key = some value := by
  induction entries generalizing map with
  | nil => simp
  | cons first rest ih =>
    rcases first with ⟨candidate, held⟩
    rcases List.nodup_cons.1 distinct with ⟨absent, tail⟩
    rw [List.foldl_cons, ih tail, get?_insert]
    by_cases same : key = candidate
    · subst same
      have notLater : (key, value) ∉ rest := by
        intro member
        exact absent (List.mem_map.2 ⟨(key, value), member, rfl⟩)
      simp [notLater, show key ∉ rest.map Prod.fst from absent, eq_comm]
    · simp [same]

/-- The map of a list without repeated keys holds its entries. -/
theorem get?_ofList [DecidableEq κ] {entries : List (κ × ν)}
    (distinct : (entries.map Prod.fst).Nodup) {key : κ} {value : ν} :
    (ofList entries).get? key = some value ↔ (key, value) ∈ entries := by
  rw [ofList, get?_foldl_insert distinct]
  exact or_iff_left fun found => by cases found.2

theorem contains_foldl_insert [DecidableEq κ] (entries : List (κ × ν)) (map : SortedMap κ ν)
    (key : κ) :
    (entries.foldl (fun map entry => map.insert entry.1 entry.2) map).contains key = true ↔
      key ∈ entries.map Prod.fst ∨ map.contains key = true := by
  induction entries generalizing map with
  | nil => simp
  | cons first rest ih =>
    rw [List.foldl_cons, ih, contains_insert, List.map_cons, List.mem_cons, Bool.or_eq_true,
      decide_eq_true_eq, or_left_comm, or_assoc]

/-- The map of a list has the keys of the list, repeated or not. -/
theorem mem_keys_ofList [DecidableEq κ] {entries : List (κ × ν)} {key : κ} :
    key ∈ (ofList entries).keys ↔ key ∈ entries.map Prod.fst :=
  (mem_keys.trans (contains_foldl_insert entries ∅ key)).trans (or_iff_left nofun)

/-- A map is what its entries make. -/
theorem ofList_toList [DecidableEq κ] (map : SortedMap κ ν) : ofList map.toList = map := by
  apply eq_of_get?_eq
  intro key
  apply Option.ext
  intro value
  rw [get?_ofList map.nodup_keys, mem_toList]

end Alerting.SortedMap
