/-!
# Sorted maps

A finite map held as its list of entries, strictly ascending by key. The order is part
of the type, so a map has one representation: two maps with the same look-ups are equal,
and reading the entries off is reading off a sorted enumeration.
-/

namespace Alerting

universe u v

open Std

/-- A finite map whose entries stand in strictly ascending order of their keys. -/
structure SortedMap (κ : Type u) (ν : Type v) [Ord κ] where
  /-- The entries, in order. -/
  toList : List (κ × ν)
  ascending : toList.Pairwise fun earlier later => compare earlier.1 later.1 = .lt

namespace SortedMap

variable {κ : Type u} {ν : Type v} [Ord κ]

theorem ext {first second : SortedMap κ ν} (same : first.toList = second.toList) :
    first = second := by
  cases first
  cases second
  cases same
  rfl

instance [DecidableEq κ] [DecidableEq ν] : DecidableEq (SortedMap κ ν) := fun first second =>
  if same : first.toList = second.toList then isTrue (ext same)
  else isFalse fun equal => same (congrArg toList equal)

/-- The map without entries. -/
def empty : SortedMap κ ν := ⟨[], .nil⟩

instance : EmptyCollection (SortedMap κ ν) := ⟨empty⟩
instance : Inhabited (SortedMap κ ν) := ⟨empty⟩

/-- The keys, in order. -/
def keys (map : SortedMap κ ν) : List κ := map.toList.map Prod.fst

/-- The number of entries. -/
def size (map : SortedMap κ ν) : Nat := map.toList.length

def isEmpty (map : SortedMap κ ν) : Bool := map.toList.isEmpty

/-- Look-up in a list of entries. -/
def find? (key : κ) : List (κ × ν) → Option ν
  | [] => none
  | (candidate, value) :: rest =>
    match compare key candidate with
    | .eq => some value
    | _ => find? key rest

/-- The value stored under a key. -/
def get? (map : SortedMap κ ν) (key : κ) : Option ν := find? key map.toList

def contains (map : SortedMap κ ν) (key : κ) : Bool := (map.get? key).isSome

/-- Places an entry into an ascending list, over an entry of the same key if there is one. -/
def place (key : κ) (value : ν) : List (κ × ν) → List (κ × ν)
  | [] => [(key, value)]
  | (candidate, old) :: rest =>
    match compare key candidate with
    | .lt => (key, value) :: (candidate, old) :: rest
    | .eq => (key, value) :: rest
    | .gt => (candidate, old) :: place key value rest

theorem mem_place {key : κ} {value : ν} {entries : List (κ × ν)} {entry : κ × ν}
    (member : entry ∈ place key value entries) : entry = (key, value) ∨ entry ∈ entries := by
  induction entries with
  | nil => exact .inl (by simpa [place] using member)
  | cons first rest ih =>
    obtain ⟨candidate, old⟩ := first
    simp only [place] at member
    split at member
    · simpa using member
    · rcases List.mem_cons.1 member with here | later
      · exact .inl here
      · exact .inr (List.mem_cons_of_mem _ later)
    · rcases List.mem_cons.1 member with here | later
      · exact .inr (here ▸ List.mem_cons_self)
      · exact (ih later).imp id (List.mem_cons_of_mem _)

theorem pairwise_place [TransOrd κ] [LawfulEqOrd κ] (key : κ) (value : ν)
    {entries : List (κ × ν)}
    (ascending : entries.Pairwise fun earlier later => compare earlier.1 later.1 = .lt) :
    (place key value entries).Pairwise
      fun earlier later => compare earlier.1 later.1 = .lt := by
  induction entries with
  | nil => exact List.pairwise_singleton _ _
  | cons first rest ih =>
    obtain ⟨candidate, old⟩ := first
    obtain ⟨below, tail⟩ := List.pairwise_cons.1 ascending
    simp only [place]
    split
    · rename_i less
      refine List.pairwise_cons.2 ⟨fun entry member => ?_, ascending⟩
      rcases List.mem_cons.1 member with here | later
      · exact here ▸ less
      · exact TransCmp.lt_trans less (below entry later)
    · rename_i same
      have equal : key = candidate := LawfulEqCmp.eq_of_compare same
      exact List.pairwise_cons.2 ⟨fun entry member => equal ▸ below entry member, tail⟩
    · rename_i greater
      refine List.pairwise_cons.2 ⟨fun entry member => ?_, ih tail⟩
      rcases mem_place member with here | later
      · exact here ▸ OrientedCmp.lt_of_gt greater
      · exact below entry later

section Update

variable [TransOrd κ] [LawfulEqOrd κ]

/-- Stores a value under a key, in place of the one stored before. -/
def insert (map : SortedMap κ ν) (key : κ) (value : ν) : SortedMap κ ν :=
  ⟨place key value map.toList, pairwise_place key value map.ascending⟩

/-- Stores under a key what `change` makes of the value stored before. -/
def alter (map : SortedMap κ ν) (key : κ) (change : Option ν → ν) : SortedMap κ ν :=
  map.insert key (change (map.get? key))

/-- The map with the given entries; of two entries with one key the later one counts. -/
def ofList (entries : List (κ × ν)) : SortedMap κ ν :=
  entries.foldl (fun map entry => map.insert entry.1 entry.2) empty

end Update

/-- The entries that pass a test. -/
def filter (map : SortedMap κ ν) (keep : κ → ν → Bool) : SortedMap κ ν :=
  ⟨map.toList.filter fun entry => keep entry.1 entry.2, map.ascending.filter _⟩

/-- Applies a function to every value. -/
def mapValues {μ : Type v} (change : ν → μ) (map : SortedMap κ ν) : SortedMap κ μ :=
  ⟨map.toList.map fun entry => (entry.1, change entry.2),
    List.pairwise_map.2 map.ascending⟩

/-! ## Equations of the look-up -/

section Lookup

@[simp] theorem get?_empty (key : κ) : (∅ : SortedMap κ ν).get? key = none := rfl

/-- A filter that takes nothing away leaves the map as it is. -/
theorem filter_eq_self {map : SortedMap κ ν} {keep : κ → ν → Bool}
    (same : map.size - (map.filter keep).size = 0) : map.filter keep = map := by
  apply ext
  have whole : (map.toList.filter fun entry => keep entry.1 entry.2).length =
      map.toList.length :=
    Nat.le_antisymm (List.length_filter_le _ _) (Nat.le_of_sub_eq_zero same)
  exact List.filter_eq_self.2 (List.length_filter_eq_length_iff.1 whole)

variable [LawfulEqOrd κ]

theorem find?_place_self (key : κ) (value : ν) (entries : List (κ × ν)) :
    find? key (place key value entries) = some value := by
  induction entries with
  | nil => simp [place, find?]
  | cons first rest ih =>
    rcases first with ⟨candidate, old⟩
    simp only [place]
    split
    · simp [find?]
    · simp [find?]
    · rename_i greater
      simp only [find?, greater]
      exact ih

theorem find?_place_of_ne {key other : κ} (different : other ≠ key) (value : ν)
    (entries : List (κ × ν)) :
    find? other (place key value entries) = find? other entries := by
  have unequal : compare other key ≠ .eq := fun same =>
    different (LawfulEqCmp.eq_of_compare same)
  induction entries with
  | nil => simp [place, find?]
  | cons first rest ih =>
    rcases first with ⟨candidate, old⟩
    simp only [place]
    split
    · simp only [find?]
    · rename_i same
      have equal : key = candidate := LawfulEqCmp.eq_of_compare same
      subst equal
      simp only [find?]
    · simp only [find?]
      split
      · rfl
      · exact ih

/-- In a list without repeated keys, looking a key up finds each entry that is there. -/
theorem find?_eq_some_iff {entries : List (κ × ν)} {key : κ} {value : ν}
    (ascending : entries.Pairwise fun earlier later => compare earlier.1 later.1 = .lt) :
    find? key entries = some value ↔ (key, value) ∈ entries := by
  induction entries with
  | nil => simp [find?]
  | cons first rest ih =>
    rcases first with ⟨candidate, old⟩
    rcases List.pairwise_cons.1 ascending with ⟨below, tail⟩
    simp only [find?, List.mem_cons, Prod.mk.injEq]
    split
    · rename_i same
      have equal : key = candidate := LawfulEqCmp.eq_of_compare same
      have absent : (key, value) ∉ rest := by
        intro member
        have less := below _ member
        simp only [equal, compare_self] at less
        cases less
      rw [equal] at absent
      simp [absent, equal, eq_comm]
    · rename_i different
      have unequal : key ≠ candidate := by
        intro equal
        exact different (equal ▸ compare_self)
      simp [unequal, ih tail]

theorem mem_toList {map : SortedMap κ ν} {key : κ} {value : ν} :
    (key, value) ∈ map.toList ↔ map.get? key = some value :=
  (find?_eq_some_iff map.ascending).symm

theorem get?_mapValues {μ : Type v} (change : ν → μ) (map : SortedMap κ ν) (key : κ) :
    (map.mapValues change).get? key = (map.get? key).map change := by
  apply Option.ext
  intro value
  rw [← mem_toList]
  simp only [mapValues, List.mem_map, Prod.mk.injEq, Option.map_eq_some_iff, ← mem_toList]
  constructor
  · rintro ⟨⟨found, old⟩, member, rfl, changed⟩
    exact ⟨old, member, changed⟩
  · rintro ⟨old, member, changed⟩
    exact ⟨(key, old), member, rfl, changed⟩

theorem get?_filter (map : SortedMap κ ν) (keep : κ → ν → Bool) (key : κ) :
    (map.filter keep).get? key = (map.get? key).filter (keep key) := by
  apply Option.ext
  intro value
  rw [← mem_toList]
  simp only [filter, List.mem_filter, Option.filter_eq_some_iff, mem_toList]

theorem contains_filter (map : SortedMap κ ν) (keep : κ → Bool) (key : κ) :
    (map.filter fun key _ => keep key).contains key = (map.contains key && keep key) := by
  rw [contains, get?_filter, contains]
  cases map.get? key with
  | none => rfl
  | some value => cases keep key <;> simp [Option.filter]

variable [TransOrd κ]

theorem get?_insert [DecidableEq κ] (map : SortedMap κ ν) (key other : κ) (value : ν) :
    (map.insert key value).get? other =
      if other = key then some value else map.get? other := by
  split
  · rename_i equal
    subst equal
    exact find?_place_self _ _ _
  · rename_i different
    exact find?_place_of_ne different _ _

theorem contains_insert [DecidableEq κ] (map : SortedMap κ ν) (key other : κ) (value : ν) :
    (map.insert key value).contains other = (decide (other = key) || map.contains other) := by
  rw [contains, get?_insert]
  split <;> simp_all [contains]

end Lookup

end SortedMap

end Alerting
