import Alerting.Emitter.Crew
import Alerting.Grouper

/-!
# Flushes step by step

A flush takes out all that is buffered in one step and then submits one group after the
other, in whatever order. Between two submissions the workers go on, and alerts that are
raised meanwhile wait for the next flush.
-/

namespace Alerting

/-! ## The parts of a flush -/

namespace Grouper

/-- The same grouper, with its queues enumerated in another order. -/
def listing (grouper : Grouper) (queues : List (GroupKey × List Alert)) : Grouper :=
  { grouper with buffer := { grouper.buffer with queues } }

/-- What is buffered, as groups. -/
def groups (grouper : Grouper) : List AlertGroup :=
  grouper.buffer.queues.map fun queue => ⟨queue.1, queue.2⟩

/-- The grouper after its buffer was taken out. -/
def emptied (grouper : Grouper) : Grouper :=
  { grouper with
    buffer := grouper.buffer.flush.2
    metrics := { grouper.metrics with buffered := some 0 } }

/-- Counts a group that a sink did not take. -/
def countSubmission (grouper : Grouper) (submission : Submission) : Grouper :=
  if submission.isAccepted then grouper
  else
    { grouper with
      submitFailures := grouper.submitFailures + 1
      metrics := { grouper.metrics with
        submitFailures := grouper.metrics.submitFailures + 1 } }

/-- Counts the groups of a flush. -/
def countGroups (grouper : Grouper) (count : Nat) : Grouper :=
  { grouper with
    metrics := { grouper.metrics with groupsFlushed := grouper.metrics.groupsFlushed + count } }

end Grouper

/-! ## A flush under way -/

/-- How far a flush has come. -/
inductive FlushProgress where
  /-- The buffer is still to be taken out. -/
  | started
  | submitting (remaining : List AlertGroup) (submissions : List (AlertGroup × Submission))

/-- The groups that a flush has still to submit. -/
def FlushProgress.remaining : FlushProgress → List AlertGroup
  | .started => []
  | .submitting remaining _ => remaining

/-- A flush under way, with what it takes from and what it submits to. -/
structure Flushing (σ : Type) where
  progress : FlushProgress
  grouper : Grouper
  crew : Crew σ

namespace Flushing

variable {σ : Type}

/-- One step of a flush. -/
inductive Step : Flushing σ → Flushing σ → Prop where
  | withdraw (grouper : Grouper) (crew : Crew σ) :
      Step ⟨.started, grouper, crew⟩ ⟨.submitting grouper.groups [], grouper.emptied, crew⟩
  | submit (before after : List AlertGroup) (group : AlertGroup)
      (submissions : List (AlertGroup × Submission)) (grouper : Grouper) (crew : Crew σ) :
      Step ⟨.submitting (before ++ group :: after) submissions, grouper, crew⟩
        ⟨.submitting (before ++ after) (submissions ++ [(group, (crew.offer group).1)]),
          grouper.countSubmission (crew.offer group).1, (crew.offer group).2⟩

/-- The groups that a flush is about: those that were accepted so far, those that are still to
be submitted, and those that are buffered. -/
def groups (flushing : Flushing σ) : List AlertGroup :=
  flushing.crew.accepted ++ flushing.progress.remaining ++ flushing.grouper.groups

end Flushing

end Alerting
