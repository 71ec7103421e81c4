/-!
# Severities

The severity of an entity is the verdict of one evaluation. The five severities have a
fixed order, which is also the order in which summaries list them.
-/

namespace Alerting

/-- The verdict on an entity at one evaluation. -/
inductive Severity where
  | good
  | warn
  | bad
  | unknown
  | missing
  deriving DecidableEq, Repr, Inhabited

namespace Severity

/-- Every severity, in order. -/
def all : List Severity := [.good, .warn, .bad, .unknown, .missing]

/-- The place of a severity in the order. -/
def rank : Severity → Nat
  | .good => 0
  | .warn => 1
  | .bad => 2
  | .unknown => 3
  | .missing => 4

/-- The written form of a severity. -/
def name : Severity → String
  | .good => "good"
  | .warn => "warn"
  | .bad => "bad"
  | .unknown => "unknown"
  | .missing => "missing"

/-- Only `good` needs no attention. -/
def isHealthy (severity : Severity) : Bool :=
  severity == .good

/-- Reads a severity that a person typed: letter case is free, and common synonyms count. -/
def ofText? (text : String) : Option Severity :=
  match text.toLower with
  | "good" | "ok" => some .good
  | "warn" | "warning" => some .warn
  | "bad" | "critical" => some .bad
  | "unknown" => some .unknown
  | "missing" => some .missing
  | _ => none

theorem mem_all (severity : Severity) : severity ∈ all := by
  cases severity <;> simp [all]

end Severity

end Alerting
