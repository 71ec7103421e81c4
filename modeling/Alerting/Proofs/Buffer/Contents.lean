import Alerting.Proofs.Buffer
import Mathlib.Data.List.Dedup

/-!
# What a buffer holds

A buffer holds the values that were added since everything was last taken out. It has one
queue for each of their keys, whichever order the queues are listed in, and each queue has
the values of its key in the order in which they came.
-/

namespace Alerting

universe u v

variable {κ : Type u} {ν : Type v} [DecidableEq κ]

/-- Of values under keys, those of one key, in their order. -/
def valuesOf (key : κ) (entries : List (κ × ν)) : List ν :=
  (entries.filter fun entry => entry.1 = key).map Prod.snd

/-- The queues that values under keys make. -/
def queuesOf (entries : List (κ × ν)) : List (κ × List ν) :=
  (entries.map Prod.fst).dedup.map fun key => (key, valuesOf key entries)

section ValuesOf

variable (key : κ)

@[simp] theorem valuesOf_append (first second : List (κ × ν)) :
    valuesOf key (first ++ second) = valuesOf key first ++ valuesOf key second := by
  simp [valuesOf]

theorem valuesOf_singleton (other : κ) (value : ν) :
    valuesOf key [(other, value)] = if other = key then [value] else [] := by
  by_cases same : other = key <;> simp [valuesOf, same]

theorem valuesOf_eq_nil {entries : List (κ × ν)} (absent : key ∉ entries.map Prod.fst) :
    valuesOf key entries = [] := by
  rw [valuesOf, List.map_eq_nil_iff, List.filter_eq_nil_iff]
  intro entry member same
  exact absent (List.mem_map.2 ⟨entry, member, of_decide_eq_true same⟩)

end ValuesOf

theorem nodup_queuesOf (entries : List (κ × ν)) : (queuesOf entries).Nodup :=
  List.Nodup.map (fun _ _ equal => congrArg Prod.fst equal) (List.nodup_dedup _)

theorem mem_queuesOf {entries : List (κ × ν)} {key : κ} {queue : List ν} :
    (key, queue) ∈ queuesOf entries ↔
      key ∈ entries.map Prod.fst ∧ queue = valuesOf key entries := by
  simp only [queuesOf, List.mem_map, List.mem_dedup, Prod.mk.injEq]
  constructor
  · rintro ⟨_, present, rfl, rfl⟩
    exact ⟨present, rfl⟩
  · rintro ⟨present, rfl⟩
    exact ⟨key, present, rfl, rfl⟩

namespace Buffer

/-- Where no key has two queues, the queue that is found under a key is the one listed. -/
theorem mem_queues_iff_lookup {queues : List (κ × List ν)}
    (distinct : (queues.map Prod.fst).Nodup) {key : κ} {queue : List ν} :
    (key, queue) ∈ queues ↔ queues.lookup key = some queue := by
  induction queues with
  | nil => simp
  | cons first rest ih =>
    rcases first with ⟨candidate, held⟩
    rcases List.nodup_cons.1 distinct with ⟨absent, tail⟩
    rw [List.mem_cons, ih tail, List.lookup_cons]
    by_cases same : key = candidate
    · subst same
      have missing : rest.lookup key ≠ some queue := fun found =>
        absent (List.mem_map.2 ⟨(key, queue), (ih tail).2 found, rfl⟩)
      simp [missing, eq_comm]
    · simp [same, beq_eq_false_iff_ne.2 same]

/-- What a buffer holds: the values, under their keys, in the order in which they came. -/
structure Holds (buffer : Buffer κ ν) (entries : List (κ × ν)) : Prop where
  consistent : buffer.Consistent
  mem_iff : ∀ key queue, (key, queue) ∈ buffer.queues ↔
    key ∈ entries.map Prod.fst ∧ queue = valuesOf key entries
  size_eq : buffer.size = entries.length

namespace Holds

variable {buffer : Buffer κ ν} {entries : List (κ × ν)}

theorem empty : (Buffer.empty : Buffer κ ν).Holds [] where
  consistent := consistent_empty
  mem_iff := by simp [Buffer.empty]
  size_eq := rfl

/-- The queues may be listed in any order. -/
theorem listing (holds : buffer.Holds entries) {queues : List (κ × List ν)}
    (order : queues.Perm buffer.queues) : Holds { buffer with queues } entries where
  consistent :=
    { distinct := (order.map Prod.fst).nodup_iff.2 holds.consistent.distinct
      size_eq := holds.consistent.size_eq.trans (sumOf_perm _ order).symm }
  mem_iff key queue := order.mem_iff.trans (holds.mem_iff key queue)
  size_eq := holds.size_eq

/-- The queues are those that the values make. -/
theorem perm (holds : buffer.Holds entries) : buffer.queues.Perm (queuesOf entries) := by
  have distinct : buffer.queues.Nodup := List.Nodup.of_map _ holds.consistent.distinct
  rw [List.perm_ext_iff_of_nodup distinct (nodup_queuesOf entries)]
  rintro ⟨key, queue⟩
  rw [holds.mem_iff, mem_queuesOf]

theorem lookup_eq (holds : buffer.Holds entries) (key : κ) :
    buffer.queues.lookup key =
      if key ∈ entries.map Prod.fst then some (valuesOf key entries) else none := by
  apply Option.ext
  intro queue
  rw [← mem_queues_iff_lookup holds.consistent.distinct, holds.mem_iff,
    Option.ite_none_right_eq_some, Option.some.injEq, eq_comm (a := queue)]

theorem queue_eq (holds : buffer.Holds entries) (key : κ) :
    buffer.queue key = valuesOf key entries := by
  rw [queue, holds.lookup_eq]
  split
  · rfl
  · rename_i absent
    exact (valuesOf_eq_nil key absent).symm

/-- A value that is added is held as the last one. -/
theorem add (holds : buffer.Holds entries) (key : κ) (value : ν) :
    (buffer.add key value).Holds (entries ++ [(key, value)]) where
  consistent := holds.consistent.add key value
  mem_iff other queue := by
    have queues : (buffer.add key value).queues = enqueue key value buffer.queues := rfl
    have own : (buffer.queues.lookup key).getD [] = valuesOf key entries := holds.queue_eq key
    rw [mem_queues_iff_lookup (holds.consistent.add key value).distinct, queues, lookup_enqueue,
      own, holds.lookup_eq, valuesOf_append, valuesOf_singleton, List.map_append, List.mem_append]
    by_cases same : other = key
    · simp [same, eq_comm]
    · simp [same, Ne.symm same, eq_comm]
  size_eq := by simp [Buffer.add, count, push, holds.size_eq]

end Holds

end Buffer

end Alerting
