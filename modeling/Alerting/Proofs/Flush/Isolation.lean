import Alerting.Flush.Progress
import Alerting.Proofs.Buffer.Contents
import Alerting.Proofs.Grouper

/-!
# Flushes into sinks that fail

A flush hands each buffered group to the sink once, with all its alerts in the order in
which they came, whatever the sink did with the groups before it. Failures are counted and
change nothing else, and the order in which the groups are enumerated decides nothing unless
the sink lets it.
-/

namespace Alerting

/-! ## What a sink is handed -/

/-- A sink that also keeps a list of what it was handed, with its answers. -/
def Sink.logged {σ : Type} (sink : Sink σ) : Sink (List (AlertGroup × Submission) × σ) :=
  fun group (log, state) =>
    let (submission, state) := sink group state
    (submission, log ++ [(group, submission)], state)

theorem submitAll_logged {σ : Type} (sink : Sink σ) (groups : List AlertGroup)
    (log : List (AlertGroup × Submission)) (state : σ) :
    submitAll sink.logged groups (log, state) =
      let (submissions, state) := submitAll sink groups state
      (submissions, log ++ submissions, state) := by
  induction groups generalizing log state with
  | nil => simp [submitAll]
  | cons group rest ih => simp [submitAll, Sink.logged, ih]

/-- Where the group alone decides, each group meets its own fate. -/
theorem submitAll_of_fate {σ : Type} {sink : Sink σ} {fate : AlertGroup → Submission}
    (decides : ∀ group state, (sink group state).1 = fate group) (groups : List AlertGroup)
    (state : σ) :
    (submitAll sink groups state).1 = groups.map fun group => (group, fate group) := by
  induction groups generalizing state with
  | nil => rfl
  | cons group rest ih => simp [submitAll, decides, ih]

namespace FlushOutcome

/-- The groups that the sink took. -/
def accepted (outcome : FlushOutcome) : List AlertGroup :=
  (outcome.submissions.filter fun entry => entry.2.isAccepted).map Prod.fst

/-- The groups that the sink did not take. -/
def refused (outcome : FlushOutcome) : List AlertGroup :=
  (outcome.submissions.filter fun entry => !entry.2.isAccepted).map Prod.fst

variable {first second : FlushOutcome}

/-- The figures of a flush do not depend on the order of the submissions. -/
theorem report_of_perm (perm : first.submissions.Perm second.submissions) :
    first.report = second.report := by
  simp only [report, FlushReport.mk.injEq]
  exact ⟨perm.length_eq, (perm.flatMap_right _).length_eq, (perm.filter _).length_eq⟩

theorem accepted_of_perm (perm : first.submissions.Perm second.submissions) :
    first.accepted.Perm second.accepted :=
  (perm.filter _).map _

end FlushOutcome

/-! ## Groupers and what they buffered -/

namespace Grouper

/-- A grouper that has come this far by buffering alerts and flushing, and the alerts that
it buffered since its last flush, under their keys. -/
inductive HasBuffered : Grouper → List (GroupKey × Alert) → Prop where
  | new (frequency : FlushFrequency) (rules : GroupingRules) : HasBuffered { frequency, rules } []
  | addUnder {grouper : Grouper} {arrivals : List (GroupKey × Alert)}
      (before : grouper.HasBuffered arrivals) (key : GroupKey) (alert : Alert) :
      HasBuffered (grouper.addUnder key alert) (arrivals ++ [(key, alert)])
  | countStranded {grouper : Grouper} {arrivals : List (GroupKey × Alert)}
      (before : grouper.HasBuffered arrivals) (alert : Alert) :
      HasBuffered (grouper.countStranded alert) arrivals
  | flush {grouper : Grouper} {arrivals : List (GroupKey × Alert)}
      (before : grouper.HasBuffered arrivals) {queues : List (GroupKey × List Alert)}
      (order : queues.Perm grouper.buffer.queues) {σ : Type} (sink : Sink σ) (state : σ) :
      HasBuffered ((grouper.listing queues).flush sink state).2.1 []

variable {grouper : Grouper} {arrivals : List (GroupKey × Alert)}

theorem HasBuffered.holds (buffered : grouper.HasBuffered arrivals) :
    grouper.buffer.Holds arrivals := by
  induction buffered with
  | new frequency rules => exact .empty
  | addUnder _ key alert ih => exact ih.add key alert
  | countStranded _ alert ih =>
    rw [buffer_countStranded]
    exact ih
  | flush _ _ sink state _ => exact .empty

/-- The groups that alerts under keys make. -/
def groupsOf (arrivals : List (GroupKey × Alert)) : List AlertGroup :=
  (queuesOf arrivals).map fun queue => ⟨queue.1, queue.2⟩

/-! ## One flush -/

section Flush

variable {σ : Type} (sink : Sink σ) (state : σ)

/-- A flush submits the groups that the buffered alerts make, once each. -/
theorem map_fst_flush_perm (holds : grouper.buffer.Holds arrivals) :
    ((grouper.flush sink state).1.submissions.map Prod.fst).Perm (groupsOf arrivals) := by
  rw [map_fst_flush]
  exact holds.perm.map _

/-- The figures of a flush: one group for each key, all buffered alerts, and the failures. -/
theorem report_flush (holds : grouper.buffer.Holds arrivals) :
    let outcome := (grouper.flush sink state).1
    outcome.report =
      ⟨(arrivals.map Prod.fst).dedup.length, arrivals.length, outcome.refused.length⟩ := by
  intro outcome
  have groups : outcome.submissions.length = (arrivals.map Prod.fst).dedup.length := by
    have perm := (map_fst_flush_perm sink state holds).length_eq
    simpa [groupsOf, queuesOf] using perm
  have alerts := grouper.alerts_report_flush sink state holds.consistent
  rw [buffered, holds.size_eq] at alerts
  rw [← groups, ← alerts, FlushOutcome.refused, List.length_map]
  rfl

/-- What a flush leaves: an empty buffer, and the counters with its groups and failures. -/
theorem grouper_flush (holds : grouper.buffer.Holds arrivals) :
    let flushed := grouper.flush sink state
    let failed := flushed.1.refused.length
    flushed.2.1 =
      { grouper with
        buffer := .empty
        submitFailures := grouper.submitFailures + failed
        metrics := { grouper.metrics with
          buffered := some 0
          submitFailures := grouper.metrics.submitFailures + failed
          groupsFlushed :=
            grouper.metrics.groupsFlushed + (arrivals.map Prod.fst).dedup.length } } := by
  intro flushed failed
  have report := report_flush sink state holds
  have groups : flushed.1.report.groups = (arrivals.map Prod.fst).dedup.length := by rw [report]
  have failures : flushed.1.report.failedGroups = failed := by rw [report]
  rw [← groups, ← failures]
  rfl

/-- A sink is handed the groups of a flush, and nothing else, in the order of the outcome. -/
theorem flush_logged :
    (grouper.flush sink.logged ([], state)).2.2 =
      ((grouper.flush sink state).1.submissions, (grouper.flush sink state).2.2) := by
  simp only [flush, submitAll_logged]
  rfl

/-- Where the group alone decides, the enumeration of the queues does not. -/
theorem submissions_flush_perm {sink : Sink σ} {fate : AlertGroup → Submission}
    (decides : ∀ group state, (sink group state).1 = fate group)
    {queues others : List (GroupKey × List Alert)} (order : others.Perm queues)
    (start : σ) :
    ((grouper.listing others).flush sink start).1.submissions.Perm
      ((grouper.listing queues).flush sink state).1.submissions := by
  have fates (queues : List (GroupKey × List Alert)) (state : σ) :
      ((grouper.listing queues).flush sink state).1.submissions =
        queues.map fun queue => (⟨queue.1, queue.2⟩, fate ⟨queue.1, queue.2⟩) := by
    have submitted := submitAll_of_fate decides
      (queues.map fun queue => (⟨queue.1, queue.2⟩ : AlertGroup)) state
    rw [List.map_map] at submitted
    exact submitted
  rw [fates, fates]
  exact order.map _

/--
A flush of whatever was buffered, its queues enumerated in any order, into any sink. The sink
is handed exactly the groups of the outcome: one for each key, with all its alerts in the
order in which they came, and with no regard to what became of others. The report counts the
keys, the alerts and the groups that were not taken; the counters grow by these; nothing
stays buffered; and a further flush does nothing at all. If the sink decides by the group
alone, the order in which the queues are enumerated changes neither the report nor which
groups are taken.
-/
theorem failing_groups_leave_siblings_alone (buffered : grouper.HasBuffered arrivals)
    {queues : List (GroupKey × List Alert)} (order : queues.Perm grouper.buffer.queues) :
    let flushed := (grouper.listing queues).flush sink state
    let outcome := flushed.1
    let keys := (arrivals.map Prod.fst).dedup
    ((grouper.listing queues).flush sink.logged ([], state)).2.2 =
        (outcome.submissions, flushed.2.2) ∧
      (outcome.submissions.map Prod.fst).Perm
        (keys.map fun key => ⟨key, valuesOf key arrivals⟩) ∧
      outcome.report = ⟨keys.length, arrivals.length, outcome.refused.length⟩ ∧
      flushed.2.1 =
        { grouper with
          buffer := .empty
          submitFailures := grouper.submitFailures + outcome.refused.length
          metrics := { grouper.metrics with
            buffered := some 0
            submitFailures := grouper.metrics.submitFailures + outcome.refused.length
            groupsFlushed := grouper.metrics.groupsFlushed + keys.length } } ∧
      (∀ (τ : Type) (other : Sink τ) (start : τ),
        flushed.2.1.flush other start = (⟨[]⟩, flushed.2.1, start)) ∧
      ∀ fate : AlertGroup → Submission, (∀ group state, (sink group state).1 = fate group) →
        ∀ others : List (GroupKey × List Alert), others.Perm grouper.buffer.queues →
          ∀ start : σ,
            let other := ((grouper.listing others).flush sink start).1
            other.report = outcome.report ∧ other.accepted.Perm outcome.accepted := by
  intro flushed outcome keys
  have holds : (grouper.listing queues).buffer.Holds arrivals := buffered.holds.listing order
  have groups := map_fst_flush_perm sink state holds
  rw [groupsOf, queuesOf, List.map_map] at groups
  refine ⟨flush_logged sink state, groups, report_flush sink state holds,
    grouper_flush sink state holds, fun _ _ _ => rfl, ?_⟩
  intro fate decides others enumerates start other
  have perm : other.submissions.Perm outcome.submissions :=
    submissions_flush_perm state decides (enumerates.trans order.symm) start
  exact ⟨FlushOutcome.report_of_perm perm, FlushOutcome.accepted_of_perm perm⟩

/-- Three alerts under two keys, the later key first, into a sink that counts its calls and
breaks down over the other one. -/
theorem failing_groups_leave_siblings_alone_crash :
    let frequency : FlushFrequency := ⟨.ofMilliseconds 60000, by decide⟩
    let keyOf (host : String) : GroupKey := ⟨"prod", 7, .metric, ["host"], [some host]⟩
    let alert (now : Instant) : Alert := ⟨"prod", 7, .metric, 1, ∅, .bad, .good, false, now⟩
    let fate (group : AlertGroup) : Submission :=
      if group.key = keyOf "A" then .crashed (some "out of order") else .accepted
    let sink : Sink Nat := fun group calls => (fate group, calls + 1)
    let arrivals := [(keyOf "A", alert 1), (keyOf "B", alert 2), (keyOf "A", alert 3)]
    let grouper := arrivals.foldl (fun grouper arrival => addUnder grouper arrival.1 arrival.2)
      { frequency, rules := ∅ }
    let flushed := (grouper.listing grouper.buffer.queues.reverse).flush sink 0
    grouper.HasBuffered arrivals ∧
      flushed.1.submissions.map Prod.fst =
        [⟨keyOf "B", [alert 2]⟩, ⟨keyOf "A", [alert 1, alert 3]⟩] ∧
      flushed.1.accepted = [⟨keyOf "B", [alert 2]⟩] ∧ flushed.2.2 = 2 ∧
      flushed.1.report = ⟨2, 3, 1⟩ ∧ flushed.2.1.flush sink 2 = (⟨[]⟩, flushed.2.1, 2) ∧
      (grouper.flush sink 0).1.report = flushed.1.report := by
  intro frequency keyOf alert fate sink arrivals grouper flushed
  have buffered : grouper.HasBuffered arrivals :=
    (((HasBuffered.new frequency ∅).addUnder (keyOf "A") (alert 1)).addUnder (keyOf "B")
      (alert 2)).addUnder (keyOf "A") (alert 3)
  rcases failing_groups_leave_siblings_alone sink 0 buffered (List.reverse_perm _) with
    ⟨-, -, report, -, nothing, anyOrder⟩
  have sameReport := (anyOrder fate (fun _ _ => rfl) grouper.buffer.queues (.refl _) 0).1
  exact ⟨buffered, by decide +kernel, by decide +kernel, by decide +kernel,
    report.trans (by decide +kernel), nothing Nat sink 2, sameReport⟩

end Flush

end Grouper

end Alerting
