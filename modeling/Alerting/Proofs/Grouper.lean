import Alerting.Grouper
import Alerting.Proofs.Buffer

/-!
# What a grouper buffers and flushes

A grouper buffers every alert it is given, under the key that its rules generate, and a
flush submits all of it: one group per key, each with the alerts of the key in the order
in which they came. What the sink does with a group changes neither.
-/

namespace Alerting

namespace FlushOutcome

/-- The alerts of a flush that were submitted under a key. -/
def alertsUnder (outcome : FlushOutcome) (key : GroupKey) : List Alert :=
  outcome.submissions.flatMap fun entry => if entry.1.key = key then entry.1.alerts else []

end FlushOutcome

/-- Every group is handed to the sink. -/
theorem map_fst_submitAll {σ : Type} (sink : Sink σ) (groups : List AlertGroup) (state : σ) :
    (submitAll sink groups state).1.map Prod.fst = groups := by
  induction groups generalizing state with
  | nil => rfl
  | cons group rest ih => exact congrArg (group :: ·) (ih (sink group state).2)

namespace Grouper

/-! ## Adding alerts -/

section Add

variable (grouper : Grouper) (alert : Alert)

@[simp] theorem buffer_countStranded : (grouper.countStranded alert).buffer = grouper.buffer := by
  rw [countStranded]
  split <;> rfl

@[simp] theorem rules_add : (grouper.add alert).rules = grouper.rules := by
  simp only [add, addUnder, countStranded]
  split <;> rfl

@[simp] theorem buffer_add :
    (grouper.add alert).buffer = grouper.buffer.add (grouper.rules.keyOf alert) alert := by
  simp only [add, addUnder, buffer_countStranded]

@[simp] theorem stranded_add :
    (grouper.add alert).stranded = grouper.stranded + (grouper.rules.isStranded alert).toNat := by
  simp only [add, addUnder, countStranded]
  cases stranded : grouper.rules.isStranded alert <;> simp

end Add

/-- Adds alerts, one after the other. -/
abbrev addAll (grouper : Grouper) (alerts : List Alert) : Grouper :=
  alerts.foldl add grouper

section AddAll

variable (grouper : Grouper) (alerts : List Alert)

@[simp] theorem rules_addAll : (grouper.addAll alerts).rules = grouper.rules := by
  induction alerts generalizing grouper with
  | nil => rfl
  | cons alert rest ih => exact (ih (grouper.add alert)).trans (rules_add grouper alert)

theorem consistent_addAll (consistent : grouper.buffer.Consistent) :
    (grouper.addAll alerts).buffer.Consistent := by
  induction alerts generalizing grouper with
  | nil => exact consistent
  | cons alert rest ih =>
    apply ih (grouper.add alert)
    rw [buffer_add]
    exact consistent.add _ alert

theorem buffered_addAll :
    (grouper.addAll alerts).buffered = grouper.buffered + alerts.length := by
  induction alerts generalizing grouper with
  | nil => rfl
  | cons alert rest ih =>
    have step : (grouper.add alert).buffered = grouper.buffered + 1 := by
      rw [buffered, buffer_add]
      rfl
    rw [addAll, List.foldl_cons, ih, step, List.length_cons]
    omega

/-- Alerts join the queues of their keys in the order in which they are added. -/
theorem queue_addAll (key : GroupKey) :
    (grouper.addAll alerts).buffer.queue key =
      grouper.buffer.queue key ++ alerts.filter (grouper.rules.keyOf · = key) := by
  induction alerts generalizing grouper with
  | nil => simp
  | cons alert rest ih =>
    rw [addAll, List.foldl_cons, ih, buffer_add, Buffer.queue_add, rules_add, List.append_assoc]
    by_cases same : grouper.rules.keyOf alert = key
    · simp [same]
    · simp [same, Ne.symm same]

theorem stranded_addAll :
    (grouper.addAll alerts).stranded =
      grouper.stranded + (alerts.filter grouper.rules.isStranded).length := by
  induction alerts generalizing grouper with
  | nil => rfl
  | cons alert rest ih =>
    rw [addAll, List.foldl_cons, ih, stranded_add, rules_add]
    cases stranded : grouper.rules.isStranded alert with
    | true =>
      rw [List.filter_cons_of_pos stranded, List.length_cons, Bool.toNat_true]
      omega
    | false =>
      rw [List.filter_cons_of_neg (Bool.eq_false_iff.1 stranded)]
      rfl

end AddAll

/-! ## Flushing -/

section Flush

variable {σ : Type} (grouper : Grouper) (sink : Sink σ) (state : σ)

@[simp] theorem buffer_flush : (grouper.flush sink state).2.1.buffer = .empty := rfl

/-- The groups of a flush are the queues. -/
theorem map_fst_flush :
    (grouper.flush sink state).1.submissions.map Prod.fst =
      grouper.buffer.queues.map fun queue => ⟨queue.1, queue.2⟩ :=
  map_fst_submitAll sink _ state

/-- A flush submits under each key what was buffered under it. -/
theorem alertsUnder_flush (consistent : grouper.buffer.Consistent) (key : GroupKey) :
    (grouper.flush sink state).1.alertsUnder key = grouper.buffer.queue key := by
  have groups := congrArg (fun groups : List AlertGroup =>
    groups.flatMap fun group => if group.key = key then group.alerts else [])
    (grouper.map_fst_flush sink state)
  simp only [List.flatMap_map] at groups
  exact groups.trans (Buffer.flatMap_queues consistent.distinct key)

/-- A flush reports as many alerts as were buffered. -/
theorem alerts_report_flush (consistent : grouper.buffer.Consistent) :
    (grouper.flush sink state).1.report.alerts = grouper.buffered := by
  have groups := congrArg (fun groups : List AlertGroup =>
    (groups.flatMap AlertGroup.alerts).length) (grouper.map_fst_flush sink state)
  simp only [List.flatMap_map, length_flatMap_eq_sumOf] at groups
  rw [FlushOutcome.report, length_flatMap_eq_sumOf, groups, buffered, consistent.size_eq]

end Flush

end Grouper

end Alerting
