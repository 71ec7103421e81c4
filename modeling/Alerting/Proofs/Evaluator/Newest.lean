import Alerting.Evaluator

/-!
# The newest observation

Which observation about an entity is the newest one is a matter of the order of arrival
and of the timestamps alone. Sorting the waiting observations newest first puts that one
in front of all others about its entity.
-/

namespace Alerting.Evaluator

variable {evaluator : Evaluator}

/-- The waiting observations in the order in which they were received. -/
def arrivals (evaluator : Evaluator) : List Observation := evaluator.pending.reverse

@[simp] theorem arrivals_observe (evaluator : Evaluator) (observation : Observation) :
    (evaluator.observe observation).arrivals = evaluator.arrivals ++ [observation] :=
  List.reverse_cons

/-- An evaluator that was offered an observation has it waiting if it accepts it. -/
def offer (evaluator : Evaluator) (observation : Observation) : Evaluator :=
  if evaluator.accepts observation then evaluator.observe observation else evaluator

/-- An offer concerns the waiting observations alone. -/
theorem offer_eq (evaluator : Evaluator) (observation : Observation) :
    evaluator.offer observation =
      { evaluator with
        pending :=
          if evaluator.accepts observation then observation :: evaluator.pending
          else evaluator.pending } := by
  rw [offer]
  split
  · rfl
  · rfl

/-- The waiting observation about an entity with the greatest timestamp, the last received
among equal timestamps. -/
def IsNewest (evaluator : Evaluator) (id : EntityId) (newest : Observation) : Prop :=
  ∃ earlier later, evaluator.arrivals = earlier ++ newest :: later ∧
    evaluator.identify newest = id ∧
    (∀ other ∈ earlier, evaluator.identify other = id →
      other.timestamp ≤ newest.timestamp) ∧
    ∀ other ∈ later, evaluator.identify other = id → other.timestamp < newest.timestamp

/-! ## The sorted batch -/

section Sorting

variable (pending : List Observation)

theorem newestFirst_transitive (first second third : Observation)
    (left : decide (second.timestamp ≤ first.timestamp) = true)
    (right : decide (third.timestamp ≤ second.timestamp) = true) :
    decide (third.timestamp ≤ first.timestamp) = true := by
  simp only [decide_eq_true_eq] at left right ⊢
  exact Int64.le_trans right left

theorem newestFirst_total (first second : Observation) :
    (decide (second.timestamp ≤ first.timestamp) ||
      decide (first.timestamp ≤ second.timestamp)) = true := by
  simp only [Bool.or_eq_true, decide_eq_true_eq]
  exact Int64.le_total second.timestamp first.timestamp

theorem pairwise_newestFirst :
    (newestFirst pending).Pairwise fun first second => second.timestamp ≤ first.timestamp := by
  have sorted := List.pairwise_mergeSort newestFirst_transitive newestFirst_total pending
  exact sorted.imp fun {first second} le => of_decide_eq_true le

theorem mem_newestFirst {observation : Observation} :
    observation ∈ newestFirst pending ↔ observation ∈ pending :=
  (List.mergeSort_perm pending _).mem_iff

/-- One more observation goes behind the newer ones and before the others. -/
theorem newestFirst_cons (observation : Observation) :
    ∃ newer others, newestFirst (observation :: pending) = newer ++ observation :: others ∧
      newestFirst pending = newer ++ others ∧
      (∀ other ∈ newer, observation.timestamp < other.timestamp) ∧
      ∀ other ∈ others, other.timestamp ≤ observation.timestamp := by
  rcases List.mergeSort_cons newestFirst_transitive newestFirst_total observation pending with
    ⟨newer, others, sorted, rest, greater⟩
  refine ⟨newer, others, sorted, rest, ?_, ?_⟩
  · intro other member
    simpa [Int64.not_le] using greater other member
  · intro other member
    have order := pairwise_newestFirst (observation :: pending)
    rw [newestFirst, sorted] at order
    exact (List.pairwise_cons.1 (List.pairwise_append.1 order).2.1).1 other member

end Sorting

/-- In a sorted batch, the first observation that passes a test is the newest such: the
waiting list has the last received one in front. -/
theorem exists_of_find?_newestFirst {test : Observation → Bool} {pending : List Observation}
    {newest : Observation} (found : (newestFirst pending).find? test = some newest) :
    ∃ later earlier, pending = later ++ newest :: earlier ∧ test newest = true ∧
      (∀ other ∈ later, test other = true → other.timestamp < newest.timestamp) ∧
      ∀ other ∈ earlier, test other = true → other.timestamp ≤ newest.timestamp := by
  induction pending with
  | nil => simp [newestFirst] at found
  | cons observation rest ih =>
    rcases newestFirst_cons rest observation with
      ⟨newer, others, sorted, restSorted, greater, smaller⟩
    rw [sorted, List.find?_append, List.find?_cons] at found
    rw [restSorted, List.find?_append] at ih
    -- unless the last received one is the answer, the answer is that of the rest
    have step (inRest : (newer.find? test).or (others.find? test) = some newest)
        (older : test observation = true → observation.timestamp < newest.timestamp) :
        ∃ later earlier, observation :: rest = later ++ newest :: earlier ∧
          test newest = true ∧
          (∀ other ∈ later, test other = true → other.timestamp < newest.timestamp) ∧
          ∀ other ∈ earlier, test other = true → other.timestamp ≤ newest.timestamp := by
      rcases ih inRest with ⟨later, earlier, split, passes, strictly, weakly⟩
      refine ⟨observation :: later, earlier, by rw [split]; rfl, passes, ?_, weakly⟩
      intro other member
      rcases List.mem_cons.1 member with rfl | inLater
      · exact older
      · exact strictly other inLater
    cases passes : test observation with
    | false =>
      rw [passes] at found
      exact step found fun impossible => absurd impossible (by simp [passes])
    | true =>
      rw [passes] at found
      cases inNewer : newer.find? test with
      | some newestOfRest =>
        simp only [inNewer, Option.some_or, Option.some.injEq] at found
        subst found
        apply step (by simp [inNewer])
        intro _
        exact greater newestOfRest (List.mem_of_find?_eq_some inNewer)
      | none =>
        simp only [inNewer, Option.none_or, Option.some.injEq] at found
        subst found
        refine ⟨[], rest, rfl, passes, by simp, ?_⟩
        intro other member otherPasses
        have inSorted : other ∈ newer ++ others := by
          rw [← restSorted]
          exact (mem_newestFirst rest).2 member
        rcases List.mem_append.1 inSorted with inNewerPart | inOthers
        · exact absurd otherPasses (List.find?_eq_none.1 inNewer other inNewerPart)
        · exact smaller other inOthers

/-! ## The newest observation is found -/

theorem IsNewest.mem {id : EntityId} {newest : Observation}
    (isNewest : evaluator.IsNewest id newest) : newest ∈ evaluator.pending := by
  rcases isNewest with ⟨earlier, later, split, -⟩
  have member : newest ∈ evaluator.arrivals := by simp [split]
  exact List.mem_reverse.1 member

/-- An entity has one newest observation. -/
theorem IsNewest.unique {id : EntityId} {first second : Observation}
    (isNewest : evaluator.IsNewest id first) (alsoNewest : evaluator.IsNewest id second) :
    first = second := by
  rcases isNewest with ⟨earlier, later, split, named, weakly, strictly⟩
  rcases alsoNewest with ⟨earlier', later', split', named', weakly', strictly'⟩
  rw [split] at split'
  rcases List.append_eq_append_iff.1 split' with ⟨between, rfl, equal⟩ | ⟨between, rfl, equal⟩
  · cases between with
    | nil =>
      simp only [List.nil_append, List.cons.injEq] at equal
      exact equal.1
    | cons head tail =>
      -- the second stands after the first, so each would be the greater one
      obtain ⟨rfl, rfl⟩ : first = head ∧ later = tail ++ second :: later' := by
        simpa using equal
      have less := strictly second (by simp) named'
      have le := weakly' first (by simp) named
      exact absurd less (Int64.not_lt.2 le)
  · cases between with
    | nil =>
      simp only [List.nil_append, List.cons.injEq] at equal
      exact equal.1.symm
    | cons head tail =>
      obtain ⟨rfl, rfl⟩ : second = head ∧ later' = tail ++ first :: later := by
        simpa using equal
      have less := strictly' first (by simp) named
      have le := weakly second (by simp) named'
      exact absurd less (Int64.not_lt.2 le)

theorem isNewest_of_find? {id : EntityId} {newest : Observation}
    (found : (newestFirst evaluator.pending).find? (evaluator.identify · = id) = some newest) :
    evaluator.IsNewest id newest := by
  rcases exists_of_find?_newestFirst found with ⟨later, earlier, split, named, strictly, weakly⟩
  simp only [decide_eq_true_eq] at named strictly weakly
  refine ⟨earlier.reverse, later.reverse, by simp [arrivals, split], named, ?_, ?_⟩
  · intro other member
    exact weakly other (List.mem_reverse.1 member)
  · intro other member
    exact strictly other (List.mem_reverse.1 member)

/-- Every entity that was observed has a newest observation. -/
theorem exists_isNewest {observation : Observation} (waiting : observation ∈ evaluator.pending) :
    ∃ newest, evaluator.IsNewest (evaluator.identify observation) newest := by
  cases found : (newestFirst evaluator.pending).find?
      (evaluator.identify · = evaluator.identify observation) with
  | some newest => exact ⟨newest, isNewest_of_find? found⟩
  | none =>
    have absent := List.find?_eq_none.1 found observation ((mem_newestFirst _).2 waiting)
    simp at absent

/-- The newest observation about an entity is the first about it in the sorted batch. -/
theorem find?_eq_some_iff_isNewest {id : EntityId} {newest : Observation} :
    (newestFirst evaluator.pending).find? (evaluator.identify · = id) = some newest ↔
      evaluator.IsNewest id newest := by
  constructor
  · exact isNewest_of_find?
  · intro isNewest
    have named : evaluator.identify newest = id := by
      rcases isNewest with ⟨earlier, later, split, named, -⟩
      exact named
    cases found : (newestFirst evaluator.pending).find? (evaluator.identify · = id) with
    | some first => rw [(isNewest_of_find? found).unique isNewest]
    | none =>
      have absent := List.find?_eq_none.1 found newest ((mem_newestFirst _).2 isNewest.mem)
      simp [named] at absent

end Alerting.Evaluator
