import Alerting.Proofs.Store.Entity

/-!
# Decisions about one entity

The decisive calls about an entity are the first raise call of each run. Listed newest
first, they determine what the next one brings: `current`, `origin` and `lastRaise` are
read off the list, and `Follows` is the rule in their terms. The three fields that a store
keeps for an entity tell no more and no less than the rule needs (`Tells`).
-/

namespace Alerting

/-- A decisive call: the reported severity and the time. -/
structure Decision where
  severity : Severity
  now : Instant
  deriving DecidableEq

namespace Decision

/-- The severity that the last decision left. -/
def current : List Decision → Severity
  | [] => .good
  | decision :: _ => decision.severity

/-- The severity before the last change. -/
def origin : List Decision → Severity
  | [] => .good
  | decision :: earlier =>
    if decision.severity = current earlier then origin earlier else current earlier

/-- Whether a decision notifies, if the last notification since the last change came at `last`. -/
def raises (policy : TransitionPolicy) (interval : NagInterval) (earlier : List Decision)
    (last : Option Instant) (next : Decision) : Bool :=
  if next.severity = current earlier then
    !next.severity.isHealthy && policy (origin earlier) next.severity &&
      last.any fun last => interval.isDue next.now last
  else policy (current earlier) next.severity

/-- The time of the last notification since the last change. -/
def lastRaise (policy : TransitionPolicy) (interval : NagInterval) :
    List Decision → Option Instant
  | [] => none
  | decision :: earlier =>
    if raises policy interval earlier (lastRaise policy interval earlier) decision then
      some decision.now
    else if decision.severity = current earlier then lastRaise policy interval earlier
    else none

/--
The rule of notifications. A change notifies if the policy accepts it. A lasting healthy
severity never notifies. A lasting unhealthy one repeats if there is an interval, the policy
accepts the last change, and more time than the interval has passed since the last
notification.
-/
structure Follows (policy : TransitionPolicy) (interval : NagInterval)
    (earlier : List Decision) (next : Decision) (raises isNag : Bool) : Prop where
  change : next.severity ≠ current earlier →
    raises = policy (current earlier) next.severity ∧ isNag = false
  healthy : next.severity = current earlier → current earlier = .good →
    raises = false ∧ isNag = false
  lasting : next.severity = current earlier → current earlier ≠ .good →
    (raises = true ↔ ∃ seconds last,
      interval = .every seconds ∧ policy (origin earlier) (current earlier) = true ∧
        lastRaise policy interval earlier = some last ∧
        (seconds.toNat : Int) < (next.now.since last).toInt) ∧
      isNag = raises

/-! ## What a store keeps -/

/-- The fields of an entity agree with the decisions about it. The timer matters only
while a repeat is possible. -/
structure Tells (policy : TransitionPolicy) (interval : NagInterval)
    (decisions : List Decision) (entity : Entity) : Prop where
  current_eq : entity.current = current decisions
  previous_eq : entity.previous = origin decisions
  timer_eq : current decisions ≠ .good →
    policy (origin decisions) (current decisions) = true →
      lastRaise policy interval decisions = some entity.nagTimestamp

namespace Tells

variable {policy : TransitionPolicy} {interval : NagInterval} {decisions : List Decision}
  {entity : Entity}

theorem nil : Tells policy interval [] {} where
  current_eq := rfl
  previous_eq := rfl
  timer_eq unhealthy := absurd rfl unhealthy

/-- Only the three fields count. -/
theorem of_fields_eq {other : Entity} (tells : Tells policy interval decisions entity)
    (current : other.current = entity.current) (previous : other.previous = entity.previous)
    (timer : other.nagTimestamp = entity.nagTimestamp) :
    Tells policy interval decisions other where
  current_eq := current.trans tells.current_eq
  previous_eq := previous.trans tells.previous_eq
  timer_eq unhealthy accepted := (tells.timer_eq unhealthy accepted).trans (by rw [timer])

/-- An entity notifies when the decisions about it say so. -/
theorem notifies_eq (tells : Tells policy interval decisions entity) (next : Decision) :
    entity.notifies policy interval next.severity next.now =
      raises policy interval decisions (lastRaise policy interval decisions) next := by
  simp only [Entity.notifies, raises, tells.current_eq, tells.previous_eq]
  split
  · rename_i same
    cases healthy : next.severity.isHealthy with
    | true => simp
    | false =>
      have unhealthy : current decisions ≠ .good := by
        rw [← same]
        simpa [Severity.isHealthy] using healthy
      cases accepted : policy (origin decisions) next.severity with
      | false => simp
      | true => simp [tells.timer_eq unhealthy (same ▸ accepted)]
  · rfl

theorem origin_eq (tells : Tells policy interval decisions entity) (next : Decision) :
    entity.origin next.severity = origin (next :: decisions) := by
  simp only [Entity.origin, origin, tells.current_eq, tells.previous_eq]

/-- An evaluation keeps the agreement, with one more decision on the list. -/
theorem evaluate (tells : Tells policy interval decisions entity) (next : Decision) :
    Tells policy interval (next :: decisions)
      (entity.evaluate policy interval next.severity next.now).2 := by
  rw [Entity.evaluate_eq]
  refine ⟨rfl, tells.origin_eq next, fun unhealthy accepted => ?_⟩
  simp only [current] at unhealthy accepted
  simp only [lastRaise, Entity.timer, tells.notifies_eq, tells.current_eq]
  split
  · rfl
  · rename_i quiet
    by_cases same : next.severity = current decisions
    · simp only [origin, same, if_true] at accepted
      simp only [same] at unhealthy
      simp [same, unhealthy, tells.timer_eq unhealthy accepted]
    · -- a change that the policy accepts would have notified
      simp only [origin, same, if_false] at accepted
      simp [raises, same, accepted] at quiet

/-- The answer of an evaluation follows the rule. -/
theorem follows (tells : Tells policy interval decisions entity)
    (loadable : ∀ seconds, interval = .every seconds →
      (seconds.toNat : Int) ≤ Int64.maxValue.toInt) (next : Decision) :
    Follows policy interval decisions next
      (entity.evaluate policy interval next.severity next.now).1.shouldRaise
      (entity.evaluate policy interval next.severity next.now).1.isNag := by
  rw [Entity.evaluate_eq]
  simp only [tells.notifies_eq, tells.current_eq]
  constructor
  · intro changed
    simp [raises, changed]
  · intro same good
    simp [raises, same, good, Severity.isHealthy]
  · intro same unhealthy
    refine ⟨?_, by simp [same]⟩
    have sick : (current decisions).isHealthy = false := by
      simpa [Severity.isHealthy] using unhealthy
    simp only [raises, same, if_true, sick, Bool.not_false, Bool.true_and, Bool.and_eq_true,
      Option.any_eq_true]
    constructor
    · rintro ⟨accepted, last, raised, due⟩
      cases interval with
      | never => simp [NagInterval.isDue] at due
      | every seconds =>
        refine ⟨seconds, last, rfl, accepted, raised, ?_⟩
        exact NagInterval.isDue_every_iff (loadable seconds rfl) |>.1 due
    · rintro ⟨seconds, last, rfl, accepted, raised, passed⟩
      exact ⟨accepted, last, raised,
        NagInterval.isDue_every_iff (loadable seconds rfl) |>.2 passed⟩

end Tells

end Decision

end Alerting
