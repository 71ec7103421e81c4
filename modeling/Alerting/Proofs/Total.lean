import Alerting.Metrics
import Alerting.Proofs.SortedMap

/-!
# Totals

Sums of a figure over a list and over the values of a map. Storing a value under a key
takes the old value of that key out of the total and puts the new one in.
-/

namespace Alerting

universe u v

open Std

/-- The sum of a figure over a list. -/
def sumOf {α : Type u} (figure : α → Nat) (values : List α) : Nat :=
  values.foldr (fun value sum => figure value + sum) 0

section SumOf

variable {α : Type u} {β : Type v} (figure : α → Nat)

@[simp] theorem sumOf_nil : sumOf figure [] = 0 := rfl

@[simp] theorem sumOf_cons (value : α) (rest : List α) :
    sumOf figure (value :: rest) = figure value + sumOf figure rest := rfl

@[simp] theorem sumOf_append (first second : List α) :
    sumOf figure (first ++ second) = sumOf figure first + sumOf figure second := by
  induction first with
  | nil => simp
  | cons value rest ih => simp [ih, Nat.add_assoc]

theorem sumOf_map (change : β → α) (values : List β) :
    sumOf figure (values.map change) = sumOf (fun value => figure (change value)) values := by
  induction values with
  | nil => rfl
  | cons value rest ih => simp [ih]

/-- The order of a list does not matter to a sum over it. -/
theorem sumOf_perm {first second : List α}
    (perm : first.Perm second) : sumOf figure first = sumOf figure second := by
  induction perm with
  | nil => rfl
  | cons value _ ih => rw [sumOf_cons, sumOf_cons, ih]
  | swap first second rest => simp only [sumOf_cons, Nat.add_left_comm]
  | trans _ _ before after => exact before.trans after

theorem sumOf_eq_zero {values : List α} (none : ∀ value ∈ values, figure value = 0) :
    sumOf figure values = 0 := by
  induction values with
  | nil => rfl
  | cons value rest ih =>
    rw [sumOf_cons, none value List.mem_cons_self,
      ih fun other member => none other (List.mem_cons_of_mem _ member)]

theorem eq_zero_of_sumOf_eq_zero {values : List α} (none : sumOf figure values = 0) {value : α}
    (member : value ∈ values) : figure value = 0 := by
  induction values with
  | nil => simp at member
  | cons first rest ih =>
    rw [sumOf_cons, Nat.add_eq_zero_iff] at none
    rcases List.mem_cons.1 member with rfl | inRest
    · exact none.1
    · exact ih none.2 inRest

theorem length_flatMap_eq_sumOf (parts : β → List α) (values : List β) :
    (values.flatMap parts).length = sumOf (fun value => (parts value).length) values := by
  induction values with
  | nil => rfl
  | cons value rest ih => simp [ih]

end SumOf

namespace SortedMap

variable {κ : Type u} {ν : Type v} [Ord κ]

/-- The sum of a figure over the values of a map. -/
def total (figure : ν → Nat) (map : SortedMap κ ν) : Nat :=
  sumOf (fun entry => figure entry.2) map.toList

@[simp] theorem total_mapValues {μ : Type v} (figure : μ → Nat) (change : ν → μ)
    (map : SortedMap κ ν) :
    (map.mapValues change).total figure = map.total fun value => figure (change value) := by
  rw [total, mapValues, sumOf_map]
  rfl

variable [TransOrd κ] [LawfulEqOrd κ]

theorem sumOf_place (figure : ν → Nat) (key : κ) (value : ν) {entries : List (κ × ν)}
    (ascending : entries.Pairwise fun earlier later => compare earlier.1 later.1 = .lt) :
    sumOf (fun entry => figure entry.2) (place key value entries) +
        (find? key entries).elim 0 figure =
      sumOf (fun entry => figure entry.2) entries + figure value := by
  induction entries with
  | nil => simp [place, find?]
  | cons first rest ih =>
    rcases first with ⟨candidate, old⟩
    rcases List.pairwise_cons.1 ascending with ⟨below, tail⟩
    cases order : compare key candidate with
    | lt =>
      have absent : find? key rest = none := by
        cases found : find? key rest with
        | none => rfl
        | some other =>
          have above := below _ ((find?_eq_some_iff tail).1 found)
          exact absurd order (OrientedCmp.not_lt_of_lt above)
      simp only [place, find?, order, absent, sumOf_cons, Option.elim_none]
      omega
    | eq =>
      simp only [place, find?, order, sumOf_cons, Option.elim_some]
      omega
    | gt =>
      have law := ih tail
      simp only [place, find?, order, sumOf_cons]
      omega

/-- Storing a value takes the value stored before out of the total. -/
theorem total_insert (figure : ν → Nat) (map : SortedMap κ ν) (key : κ) (value : ν) :
    (map.insert key value).total figure + (map.get? key).elim 0 figure =
      map.total figure + figure value :=
  sumOf_place figure key value map.ascending

end SortedMap

/-- Increasing one counter increases the sum of all counters. -/
theorem SortedMap.total_increase (counters : SortedMap AlertId Nat) (alert : AlertId)
    (amount : Nat) :
    (counters.increase alert amount).total id = counters.total id + amount := by
  have law := counters.total_insert id alert ((counters.get? alert).getD 0 + amount)
  rw [increase, alter]
  cases found : counters.get? alert with
  | none =>
    rw [found] at law
    simpa using law
  | some before =>
    rw [found] at law
    simp only [Option.elim_some, Option.getD_some, id_eq] at law ⊢
    omega

end Alerting
