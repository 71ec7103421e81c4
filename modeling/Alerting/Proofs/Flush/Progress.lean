import Alerting.Flush.Progress
import Alerting.Proofs.Emitter.Crew

/-!
# What the steps of a flush make

Taken together, the steps of a flush are the flush of the grouper. Each of them only moves
groups, as long as the queue of the emitters has room for all.
-/

namespace Alerting

/-! ## The parts of a flush -/

namespace Grouper

variable (grouper : Grouper)

@[simp] theorem groups_emptied : grouper.emptied.groups = [] := rfl

@[simp] theorem rules_emptied : grouper.emptied.rules = grouper.rules := rfl

@[simp] theorem groups_countGroups (count : Nat) :
    (grouper.countGroups count).groups = grouper.groups := rfl

@[simp] theorem rules_countGroups (count : Nat) :
    (grouper.countGroups count).rules = grouper.rules := rfl

@[simp] theorem groups_countSubmission (submission : Submission) :
    (grouper.countSubmission submission).groups = grouper.groups := by
  rw [countSubmission]
  split <;> rfl

@[simp] theorem rules_countSubmission (submission : Submission) :
    (grouper.countSubmission submission).rules = grouper.rules := by
  rw [countSubmission]
  split <;> rfl

/-- Counting submissions one by one adds up those that failed. -/
theorem foldl_countSubmission (submissions : List (AlertGroup × Submission)) :
    submissions.foldl (fun grouper entry => grouper.countSubmission entry.2) grouper =
      let failed := (submissions.filter fun entry => !entry.2.isAccepted).length
      { grouper with
        submitFailures := grouper.submitFailures + failed
        metrics := { grouper.metrics with
          submitFailures := grouper.metrics.submitFailures + failed } } := by
  induction submissions generalizing grouper with
  | nil => rfl
  | cons entry rest ih =>
    rw [List.foldl_cons, ih, countSubmission]
    cases accepted : entry.2.isAccepted <;> simp [accepted, Nat.add_assoc, Nat.add_comm 1]

/-- A flush is made of its parts. -/
theorem flush_eq {σ : Type} (sink : Sink σ) (state : σ) :
    grouper.flush sink state =
      let (submissions, state) := submitAll sink grouper.groups state
      (⟨submissions⟩,
        (submissions.foldl (fun grouper entry => grouper.countSubmission entry.2)
          grouper.emptied).countGroups submissions.length, state) := by
  simp only [foldl_countSubmission]
  rfl

end Grouper

/-! ## What groups hold -/

/-- Groups that hold some alerts: each alert is in one of them, under its key, and in each
group the alerts are in order. -/
structure Gathers (rules : GroupingRules) (alerts : List Alert) (groups : List AlertGroup) :
    Prop where
  perm : (groups.flatMap AlertGroup.alerts).Perm alerts
  filled : ∀ group ∈ groups, group.alerts ≠ []
  ordered : ∀ group ∈ groups, group.alerts.Sublist alerts
  keyed : ∀ group ∈ groups, ∀ alert ∈ group.alerts, rules.keyOf alert = group.key

namespace Gathers

variable {rules : GroupingRules} {alerts : List Alert} {groups others : List AlertGroup}

theorem nil (rules : GroupingRules) : Gathers rules [] [] := by
  constructor <;> simp

theorem of_perm (gathers : Gathers rules alerts groups) (perm : others.Perm groups) :
    Gathers rules alerts others where
  perm := (perm.flatMap_right AlertGroup.alerts).trans gathers.perm
  filled group member := gathers.filled group (perm.mem_iff.1 member)
  ordered group member := gathers.ordered group (perm.mem_iff.1 member)
  keyed group member := gathers.keyed group (perm.mem_iff.1 member)

/-- There are no more groups than alerts. -/
theorem length_le (gathers : Gathers rules alerts groups) : groups.length ≤ alerts.length := by
  rw [← gathers.perm.length_eq, length_flatMap_eq_sumOf]
  have filled := gathers.filled
  clear gathers
  induction groups with
  | nil => exact Nat.zero_le _
  | cons group rest ih =>
    have positive := List.length_pos_iff.2 (filled group List.mem_cons_self)
    have more := ih fun other member => filled other (List.mem_cons_of_mem _ member)
    rw [List.length_cons, sumOf_cons]
    omega

/-- An alert can make a group of its own. -/
theorem append (gathers : Gathers rules alerts groups) (alert : Alert) :
    Gathers rules (alerts ++ [alert]) (groups ++ [⟨rules.keyOf alert, [alert]⟩]) := by
  constructor
  case perm => simpa using gathers.perm.append_right [alert]
  all_goals
    intro group member
    rcases List.mem_append.1 member with earlier | last
  case filled.inl => exact gathers.filled group earlier
  case ordered.inl => exact (gathers.ordered group earlier).trans (List.sublist_append_left _ _)
  case keyed.inl => exact gathers.keyed group earlier
  all_goals rw [List.mem_singleton.1 last]
  case filled.inr => exact List.cons_ne_nil _ _
  case ordered.inr => exact List.sublist_append_right _ _
  case keyed.inr =>
    intro other single
    rw [List.mem_singleton.1 single]

/-- An alert can join a group of its key. -/
theorem join {before after : List AlertGroup} {key : GroupKey} {queue : List Alert}
    (gathers : Gathers rules alerts (before ++ ⟨key, queue⟩ :: after)) {alert : Alert}
    (keyed : rules.keyOf alert = key) :
    Gathers rules (alerts ++ [alert]) (before ++ ⟨key, queue ++ [alert]⟩ :: after) := by
  have here : (⟨key, queue⟩ : AlertGroup) ∈ before ++ ⟨key, queue⟩ :: after := by simp
  have split {group : AlertGroup} (member : group ∈ before ++ ⟨key, queue ++ [alert]⟩ :: after) :
      group = ⟨key, queue ++ [alert]⟩ ∨ group ∈ before ++ ⟨key, queue⟩ :: after := by
    simp only [List.mem_append, List.mem_cons] at member ⊢
    tauto
  constructor
  case perm =>
    refine List.Perm.trans ?_ (gathers.perm.append_right [alert])
    simp only [List.flatMap_append, List.flatMap_cons, List.append_assoc]
    refine (List.Perm.append_left _ ?_).append_left _
    exact List.perm_append_comm
  case filled =>
    intro group member
    rcases split member with rfl | other
    · simp
    · exact gathers.filled group other
  case ordered =>
    intro group member
    rcases split member with rfl | other
    · exact (gathers.ordered _ here).append (List.Sublist.refl _)
    · exact (gathers.ordered group other).trans (List.sublist_append_left _ _)
  case keyed =>
    intro group member
    rcases split member with rfl | other
    · intro inGroup member
      rcases List.mem_append.1 member with earlier | last
      · exact gathers.keyed _ here inGroup earlier
      · rw [List.mem_singleton.1 last]
        exact keyed
    · exact gathers.keyed group other

/-- A grouper puts each alert that it is given into a group of its key. -/
theorem add {grouper : Grouper} (gathers : Gathers rules alerts (others ++ grouper.groups))
    (same : grouper.rules = rules) (alert : Alert) :
    Gathers rules (alerts ++ [alert]) (others ++ (grouper.add alert).groups) := by
  have queues : (grouper.add alert).buffer.queues =
      Buffer.enqueue (rules.keyOf alert) alert grouper.buffer.queues := by
    rw [Grouper.buffer_add, same]
    rfl
  rw [Grouper.groups, queues]
  rcases Buffer.enqueue_cases (rules.keyOf alert) alert grouper.buffer.queues with
    ⟨before, queue, after, split, joined⟩ | added
  · rw [Grouper.groups, split, List.map_append, List.map_cons, ← List.append_assoc] at gathers
    rw [joined, List.map_append, List.map_cons, ← List.append_assoc]
    exact gathers.join rfl
  · rw [added, List.map_append, ← List.append_assoc]
    exact gathers.append alert

end Gathers

/-! ## The steps of a flush -/

namespace Flushing

variable {σ : Type} {sink : Sink σ} {start : σ} {flushing next : Flushing σ}

/-- With room for all groups, a step of a flush only moves groups. -/
theorem Step.groups_perm (step : Step flushing next) (balanced : flushing.crew.Balanced sink start)
    (some : flushing.crew.pool.workers ≠ 0)
    (fits : flushing.groups.length ≤ flushing.crew.pool.capacity) :
    next.groups.Perm flushing.groups := by
  cases step with
  | withdraw grouper crew => simp [groups, FlushProgress.remaining]
  | submit before after group submissions grouper crew =>
    rcases crew.offer_cases group with ⟨-, -, accepted⟩ | ⟨full, -⟩
    · simp only [groups, FlushProgress.remaining, accepted, Grouper.groups_countSubmission,
        List.append_assoc, List.cons_append, List.nil_append]
      exact (List.perm_middle.symm).append_left _
    · have accepted := congrArg List.length balanced.accepted_eq
      simp only [groups, FlushProgress.remaining, List.length_append, List.length_cons] at fits
      simp only [List.length_append] at accepted
      exfalso
      rcases full with none | full
      · exact some none
      · omega

/-- What a step of a flush leaves as it is. -/
theorem Step.frame (step : Step flushing next) :
    next.grouper.rules = flushing.grouper.rules ∧
      next.crew.pool.workers = flushing.crew.pool.workers ∧
      next.crew.pool.capacity = flushing.crew.pool.capacity ∧
      next.crew.isOpen = flushing.crew.isOpen := by
  cases step with
  | withdraw grouper crew => exact ⟨rfl, rfl, rfl, rfl⟩
  | submit before after group submissions grouper crew =>
    refine ⟨grouper.rules_countSubmission _, ?_⟩
    rcases crew.offer_cases group with ⟨-, -, accepted⟩ | ⟨-, error, refused⟩
    · rw [accepted]
      exact ⟨rfl, rfl, rfl⟩
    · rw [refused]
      exact ⟨rfl, rfl, rfl⟩

/-- Once the buffer was taken out, the steps of a flush put nothing into it. -/
theorem Step.groups_eq_nil (step : Step flushing next)
    (withdrawn : flushing.progress ≠ .started → flushing.grouper.groups = []) :
    next.grouper.groups = [] := by
  cases step with
  | withdraw grouper crew => rfl
  | submit before after group submissions grouper crew =>
    rw [Grouper.groups_countSubmission]
    exact withdrawn (by simp)

theorem Step.balanced (step : Step flushing next) (balanced : flushing.crew.Balanced sink start)
    (opened : flushing.crew.isOpen = true) : next.crew.Balanced sink start := by
  cases step with
  | withdraw grouper crew => exact balanced
  | submit before after group submissions grouper crew => exact balanced.offer opened group

/-- A flush can submit its groups in the order in which it has them, and it counts what becomes
of each. The workers are left alone. -/
theorem reaches_submitted (remaining : List AlertGroup)
    (submissions : List (AlertGroup × Submission)) (grouper : Grouper) (crew : Crew σ) :
    let submitted := submitAll EmitterPool.submit remaining crew.pool
    ∃ accepted, Relation.ReflTransGen Step ⟨.submitting remaining submissions, grouper, crew⟩
      ⟨.submitting [] (submissions ++ submitted.1),
        submitted.1.foldl (fun grouper entry => grouper.countSubmission entry.2) grouper,
        { crew with pool := submitted.2, accepted }⟩ := by
  intro submitted
  induction remaining generalizing submissions grouper crew with
  | nil => exact ⟨crew.accepted, (List.append_nil submissions).symm ▸ .refl⟩
  | cons group rest ih =>
    rcases ih (submissions ++ [(group, (crew.offer group).1)])
      (grouper.countSubmission (crew.offer group).1) (crew.offer group).2 with ⟨accepted, steps⟩
    refine ⟨accepted, .head (.submit [] rest group submissions grouper crew) ?_⟩
    rw [List.append_assoc] at steps
    exact steps

/-- A flush can be brought to its end from wherever it stands. -/
theorem exists_submitted (flushing : Flushing σ) : ∃ submissions grouper crew,
    Relation.ReflTransGen Step flushing ⟨.submitting [] submissions, grouper, crew⟩ := by
  rcases flushing with ⟨progress, grouper, crew⟩
  cases progress with
  | started =>
    rcases reaches_submitted grouper.groups [] grouper.emptied crew with ⟨accepted, steps⟩
    exact ⟨_, _, _, .head (.withdraw grouper crew) steps⟩
  | submitting remaining submissions =>
    rcases reaches_submitted remaining submissions grouper crew with ⟨accepted, steps⟩
    exact ⟨_, _, _, steps⟩

/-- The flush of a grouper is one order of these steps. -/
theorem reaches_flush (grouper : Grouper) (crew : Crew σ) :
    let flushed := grouper.flush EmitterPool.submit crew.pool
    ∃ submissions grouper' accepted, Relation.ReflTransGen Step ⟨.started, grouper, crew⟩
        ⟨.submitting [] submissions, grouper', { crew with pool := flushed.2.2, accepted }⟩ ∧
      grouper'.countGroups submissions.length = flushed.2.1 := by
  rcases reaches_submitted grouper.groups [] grouper.emptied crew with ⟨accepted, steps⟩
  rw [Grouper.flush_eq]
  exact ⟨_, _, accepted, .head (.withdraw grouper crew) steps, rfl⟩

end Flushing

end Alerting
