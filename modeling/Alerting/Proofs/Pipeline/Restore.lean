import Alerting.Proofs.Pipeline.Routing

/-!
# Restored pipelines

Restoring concerns the evaluators alone, and each of them by itself: the evaluator of an
alert takes over the records that the checkpoint holds for this alert.
-/

namespace Alerting.Pipeline

section RestoreAlert

variable (pipeline : Pipeline) (alert : AlertId) (entries : List EntityRecord)

theorem get?_restoreAlert (id : AlertId) :
    (pipeline.restoreAlert alert entries).evaluators.get? id =
      if id = alert then (pipeline.evaluators.get? id).map (·.restore entries)
      else pipeline.evaluators.get? id := by
  by_cases same : id = alert
  · subst same
    cases held : pipeline.evaluators.get? id with
    | none => simp [restoreAlert, held]
    | some evaluator => simp [restoreAlert, held, SortedMap.get?_insert]
  · cases held : pipeline.evaluators.get? alert with
    | none => simp [restoreAlert, held, same]
    | some evaluator => simp [restoreAlert, held, same, SortedMap.get?_insert]

/-- Restoring an alert concerns the evaluators alone. -/
theorem exists_restoreAlert_eq :
    ∃ evaluators, pipeline.restoreAlert alert entries = { pipeline with evaluators } := by
  rw [restoreAlert]
  split
  · exact ⟨_, rfl⟩
  · exact ⟨_, rfl⟩

end RestoreAlert

section Restore

/-- Restores the records of several alerts, one alert after the other. -/
def restoreAll (pipeline : Pipeline) (alerts : List (AlertId × List EntityRecord)) : Pipeline :=
  alerts.foldl (fun pipeline alert => pipeline.restoreAlert alert.1 alert.2) pipeline

variable (pipeline : Pipeline) (alerts : List (AlertId × List EntityRecord))
  (checkpoint : Checkpoint)

theorem get?_restoreAll (id : AlertId) :
    (pipeline.restoreAll alerts).evaluators.get? id =
      (pipeline.evaluators.get? id).map fun evaluator =>
        (alerts.filter fun alert => alert.1 = id).foldl
          (fun evaluator alert => evaluator.restore alert.2) evaluator := by
  induction alerts generalizing pipeline with
  | nil => exact Option.map_id'.symm
  | cons alert rest ih =>
    have step : pipeline.restoreAll (alert :: rest) =
        (pipeline.restoreAlert alert.1 alert.2).restoreAll rest := rfl
    rw [step, ih, get?_restoreAlert]
    by_cases same : alert.1 = id
    · subst same
      simp [Function.comp_def]
    · simp [same, Ne.symm same]

theorem exists_restoreAll_eq :
    ∃ evaluators, pipeline.restoreAll alerts = { pipeline with evaluators } := by
  induction alerts generalizing pipeline with
  | nil => exact ⟨_, rfl⟩
  | cons alert rest ih =>
    rcases exists_restoreAlert_eq pipeline alert.1 alert.2 with ⟨_, first⟩
    rcases ih (pipeline.restoreAlert alert.1 alert.2) with ⟨evaluators, later⟩
    refine ⟨evaluators, later.trans ?_⟩
    rw [first]

/-- Restoring concerns the evaluators alone. -/
theorem exists_restore_eq :
    ∃ evaluators, pipeline.restore checkpoint = { pipeline with evaluators } :=
  exists_restoreAll_eq pipeline checkpoint.alerts.toList

/-- An evaluator takes over the records that a checkpoint holds for its alert. -/
theorem get?_restore (id : AlertId) :
    (pipeline.restore checkpoint).evaluators.get? id =
      (pipeline.evaluators.get? id).map fun evaluator =>
        evaluator.restore ((checkpoint.alerts.get? id).getD []) := by
  apply (pipeline.get?_restoreAll checkpoint.alerts.toList id).trans
  rw [SortedMap.filter_key_toList]
  cases checkpoint.alerts.get? id <;> rfl

@[simp] theorem purge_restore : (pipeline.restore checkpoint).purge = pipeline.purge := by
  rcases exists_restore_eq pipeline checkpoint with ⟨_, after⟩
  rw [after]

@[simp] theorem grouper_restore : (pipeline.restore checkpoint).grouper = pipeline.grouper := by
  rcases exists_restore_eq pipeline checkpoint with ⟨_, after⟩
  rw [after]

end Restore

variable {pipeline : Pipeline} {config : Config}

/-- Restoring does not change which alerts are served. -/
theorem Serves.restore (serves : pipeline.Serves config) (checkpoint : Checkpoint) :
    (pipeline.restore checkpoint).Serves config := by
  apply serves.congr
  intro id
  rw [get?_restore, Option.map_map]
  rfl

end Alerting.Pipeline
