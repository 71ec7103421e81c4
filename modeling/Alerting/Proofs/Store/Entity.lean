import Alerting.Store

/-!
# Evaluating one entity

What an evaluation answers about an entity and what it leaves behind, in one equation.
The answer rests on the current and the previous severity and on the time of the last
notification; when the entity was seen, and under which tags, is neither read nor changed.
-/

namespace Alerting.Entity

variable (policy : TransitionPolicy) (interval : NagInterval) (entity : Entity)
  (new : Severity) (now : Instant)

/-- Whether an evaluation notifies. -/
def notifies : Bool :=
  if new = entity.current then
    !new.isHealthy && policy entity.previous new && interval.isDue now entity.nagTimestamp
  else policy entity.current new

/-- A change notifies if the policy accepts it, a lasting unhealthy severity if the policy
accepts the last change and a repeat is due. -/
theorem notifies_iff :
    entity.notifies policy interval new now = true ↔
      (new ≠ entity.current ∧ policy entity.current new = true) ∨
      (new = entity.current ∧ new.isHealthy = false ∧ policy entity.previous new = true ∧
        interval.isDue now entity.nagTimestamp = true) := by
  by_cases same : new = entity.current <;> simp [notifies, same, and_assoc]

/-- The severity before the current one, once `new` is current. -/
def origin : Severity := if new = entity.current then entity.previous else entity.current

/-- The timer after an evaluation: a notification starts it, and without one a change or a
healthy severity stops it. -/
def timer : Instant :=
  if entity.notifies policy interval new now then now
  else if new = entity.current ∧ new ≠ .good then entity.nagTimestamp
  else 0

/-- The answer of an evaluation and the entity after it. A notification is a repeat if the
severity did not change. -/
theorem evaluate_eq :
    entity.evaluate policy interval new now =
      (⟨entity.origin new, new,
          decide (new = entity.current) && entity.notifies policy interval new now,
          entity.notifies policy interval new now⟩,
        { entity with
          current := new
          previous := entity.origin new
          nagTimestamp := entity.timer policy interval new now }) := by
  by_cases same : new = entity.current
  · subst same
    cases healthy : entity.current.isHealthy with
    | true =>
      have good : entity.current = .good := by simpa [Severity.isHealthy] using healthy
      simp [evaluate, persist, notifies, origin, timer, good, Severity.isHealthy,
        StateChange.silent]
    | false =>
      have unhealthy : entity.current ≠ .good := by simpa [Severity.isHealthy] using healthy
      cases due :
        (policy entity.previous entity.current && interval.isDue now entity.nagTimestamp) <;>
        simp [evaluate, persist, notifies, origin, timer, healthy, unhealthy, due,
          StateChange.silent]
  · simp [evaluate, change, notifies, origin, timer, same]

@[simp] theorem current_evaluate :
    (entity.evaluate policy interval new now).2.current = new := by
  rw [evaluate_eq]

@[simp] theorem lastSeen_evaluate :
    (entity.evaluate policy interval new now).2.lastSeen = entity.lastSeen := by
  rw [evaluate_eq]

@[simp] theorem tags_evaluate :
    (entity.evaluate policy interval new now).2.tags = entity.tags := by
  rw [evaluate_eq]

/-! ## Sightings -/

section See

variable (preservesIdentity : Bool) (tags : Tags) (seen : Instant)

/-- A sighting moves the last one forward only. -/
theorem max_eq_ite (last seen : Instant) : max last seen = if last < seen then seen else last := by
  change (if last ≤ seen then seen else last) = _
  by_cases less : last < seen
  · simp [less, Int64.le_of_lt less]
  · simp only [less, if_false]
    split
    · rename_i le
      exact Int64.le_antisymm (Int64.not_lt.1 less) le
    · rfl

theorem le_max (last seen : Instant) : seen ≤ max last seen := by
  rw [max_eq_ite]
  split
  · exact Int64.le_refl _
  · rename_i notLess
    exact Int64.not_lt.1 notLess

theorem lastSeen_see :
    (entity.see preservesIdentity tags seen).lastSeen =
      some (entity.lastSeen.elim seen fun last => max last seen) := by
  simp only [see]
  cases entity.lastSeen with
  | none => rfl
  | some last => exact congrArg some (max_eq_ite last seen).symm

end See

end Alerting.Entity
