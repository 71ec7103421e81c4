import Alerting.Buffer
import Alerting.Proofs.Total

/-!
# Buffers through their queues

Each key has one queue, and a value that is added stands at the end of the queue of its
key until everything is taken out. What is taken out is then, key by key, what was added,
in the order in which it was added.
-/

namespace Alerting.Buffer

universe u v

variable {κ : Type u} {ν : Type v} [DecidableEq κ]

/-- No key has two queues, and the values are counted. -/
structure Consistent (buffer : Buffer κ ν) : Prop where
  distinct : (buffer.queues.map Prod.fst).Nodup
  size_eq : buffer.size = sumOf (fun queue => queue.2.length) buffer.queues

omit [DecidableEq κ] in
theorem consistent_empty : (empty : Buffer κ ν).Consistent := ⟨List.nodup_nil, rfl⟩

@[simp] theorem queue_empty (key : κ) : (empty : Buffer κ ν).queue key = [] := rfl

/-! ## Adding a value -/

section Add

variable (key : κ) (value : ν)

theorem lookup_enqueue (queues : List (κ × List ν)) (other : κ) :
    (enqueue key value queues).lookup other =
      if other = key then some ((queues.lookup key).getD [] ++ [value])
      else queues.lookup other := by
  induction queues with
  | nil => by_cases same : other = key <;> simp [enqueue, same]
  | cons first rest ih =>
    rcases first with ⟨candidate, queue⟩
    simp only [enqueue]
    split
    · rename_i found
      subst found
      by_cases same : other = candidate
      · simp [same]
      · simp only [List.lookup_cons, beq_eq_false_iff_ne.2 same, same, if_false]
    · rename_i missed
      by_cases here : other = candidate
      · subst here
        simp [missed]
      · simp only [List.lookup_cons, beq_eq_false_iff_ne.2 here,
          beq_eq_false_iff_ne.2 (Ne.symm missed), ih]

/-- A value goes to the end of the queue of its key. -/
theorem queue_add (buffer : Buffer κ ν) (other : κ) :
    (buffer.add key value).queue other =
      buffer.queue other ++ if other = key then [value] else [] := by
  simp only [queue, add, count, push, lookup_enqueue]
  split
  · rename_i same
    rw [same]
    rfl
  · simp

/-- A value joins the queue of its key, or it comes with a new queue at the end. -/
theorem enqueue_cases (queues : List (κ × List ν)) :
    (∃ before queue after, queues = before ++ (key, queue) :: after ∧
      enqueue key value queues = before ++ (key, queue ++ [value]) :: after) ∨
    enqueue key value queues = queues ++ [(key, [value])] := by
  induction queues with
  | nil => exact .inr rfl
  | cons first rest ih =>
    rcases first with ⟨candidate, queue⟩
    rw [enqueue]
    split
    · rename_i found
      subst found
      exact .inl ⟨[], queue, rest, rfl, rfl⟩
    · rcases ih with ⟨before, found, after, split, joined⟩ | added
      · refine .inl ⟨(candidate, queue) :: before, found, after, ?_, ?_⟩
        · rw [split, List.cons_append]
        · rw [joined, List.cons_append]
      · refine .inr ?_
        rw [added, List.cons_append]

theorem map_fst_enqueue (queues : List (κ × List ν)) :
    (enqueue key value queues).map Prod.fst =
      if key ∈ queues.map Prod.fst then queues.map Prod.fst
      else queues.map Prod.fst ++ [key] := by
  induction queues with
  | nil => rfl
  | cons first rest ih =>
    rcases first with ⟨candidate, queue⟩
    simp only [enqueue]
    split
    · rename_i found
      simp [found]
    · rename_i missed
      rw [List.map_cons, ih]
      by_cases later : key ∈ rest.map Prod.fst
      · simp [later]
      · simp [later, Ne.symm missed]

theorem sumOf_length_enqueue (queues : List (κ × List ν)) :
    sumOf (fun queue => queue.2.length) (enqueue key value queues) =
      sumOf (fun queue => queue.2.length) queues + 1 := by
  induction queues with
  | nil => rfl
  | cons first rest ih =>
    rcases first with ⟨candidate, queue⟩
    simp only [enqueue]
    split
    · simp only [sumOf_cons, List.length_append, List.length_singleton]
      omega
    · simp only [sumOf_cons, ih]
      omega

theorem nodup_map_fst_enqueue {queues : List (κ × List ν)}
    (distinct : (queues.map Prod.fst).Nodup) :
    ((enqueue key value queues).map Prod.fst).Nodup := by
  rw [map_fst_enqueue]
  split
  · exact distinct
  · rename_i absent
    refine List.nodup_append.2 ⟨distinct, by simp, ?_⟩
    rintro present member _ here rfl
    exact absent (List.mem_singleton.1 here ▸ member)

theorem Consistent.add {buffer : Buffer κ ν} (consistent : buffer.Consistent) :
    (buffer.add key value).Consistent := by
  constructor
  · exact nodup_map_fst_enqueue key value consistent.distinct
  · simp only [Buffer.add, count, push, sumOf_length_enqueue, consistent.size_eq]

end Add

/-! ## Taking everything out -/

/-- The values of a key among all queues are those of its queue. -/
theorem flatMap_queues {queues : List (κ × List ν)} (distinct : (queues.map Prod.fst).Nodup)
    (key : κ) :
    (queues.flatMap fun queue => if queue.1 = key then queue.2 else []) =
      (queues.lookup key).getD [] := by
  induction queues with
  | nil => rfl
  | cons first rest ih =>
    rcases first with ⟨candidate, queue⟩
    rcases List.nodup_cons.1 distinct with ⟨absent, tail⟩
    rw [List.flatMap_cons, ih tail, List.lookup_cons]
    by_cases same : candidate = key
    · subst same
      have missing : rest.lookup candidate = none := by
        rw [List.lookup_eq_none_iff]
        intro other member
        rw [bne_iff_ne]
        intro equal
        exact absent (List.mem_map.2 ⟨other, member, equal.symm⟩)
      simp [missing]
    · simp only [same, if_false, beq_eq_false_iff_ne.2 (Ne.symm same), List.nil_append]

end Alerting.Buffer
