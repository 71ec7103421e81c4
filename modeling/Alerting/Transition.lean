import Alerting.Severity

/-!
# Transition policies

A policy says which pairs of an old and a new severity may notify at all. It is asked
for a change, and again, with the severity before the last change, for every repeat.
-/

namespace Alerting

/-- Which pairs of an old and a new severity may notify. -/
abbrev TransitionPolicy := Severity → Severity → Bool

/-- Rules that look at the new severity alone, recovery apart. -/
structure TransitionRules where
  /-- An unhealthy entity that returns to `good` notifies. -/
  onRecovery : Bool
  onWarn : Bool
  onMissing : Bool
  onUnknown : Bool
  deriving DecidableEq, Repr

namespace TransitionRules

/-- Every unhealthy severity notifies, recovery does not. -/
def unhealthyOnly : TransitionRules := ⟨false, true, true, true⟩

/-- Every unhealthy severity and every recovery notifies. -/
def withRecovery : TransitionRules := { unhealthyOnly with onRecovery := true }

instance : Inhabited TransitionRules := ⟨unhealthyOnly⟩

/-- The policy that the rules describe. `bad` cannot be switched off. -/
def policy (rules : TransitionRules) : TransitionPolicy := fun old new =>
  match new with
  | .good => rules.onRecovery && !old.isHealthy
  | .warn => rules.onWarn
  | .bad => true
  | .unknown => rules.onUnknown
  | .missing => rules.onMissing

end TransitionRules

/-- The policy that accepts exactly the listed pairs. -/
def TransitionPolicy.ofPairs (pairs : List (Severity × Severity)) : TransitionPolicy :=
  fun old new => pairs.contains (old, new)

/-- The pairs that a policy accepts, old severity first. -/
def TransitionPolicy.accepted (policy : TransitionPolicy) : List (Severity × Severity) :=
  (Severity.all.flatMap fun old => Severity.all.map fun new => (old, new)).filter
    fun pair => policy pair.1 pair.2

end Alerting
