import Alerting.Sink

/-!
# The outcome of a flush

What became of each group of a flush, and the figures and failure reports read off it.
-/

namespace Alerting

/-- The figures of a flush. -/
structure FlushReport where
  groups : Nat
  alerts : Nat
  failedGroups : Nat
  deriving DecidableEq, Repr

/-- The account of a group that was not taken. -/
structure FlushFailure where
  group : String
  alerts : String
  error : String
  deriving DecidableEq, Repr

/-- The groups of a flush in the order of their submission, each with its fate. -/
structure FlushOutcome where
  submissions : List (AlertGroup × Submission)
  deriving DecidableEq

namespace FlushOutcome

def report (outcome : FlushOutcome) : FlushReport where
  groups := outcome.submissions.length
  alerts := (outcome.submissions.flatMap fun entry => entry.1.alerts).length
  failedGroups := (outcome.submissions.filter fun entry => !entry.2.isAccepted).length

/-- How an alert of a failed group is listed. -/
def describeAlert (alert : Alert) : String :=
  alert.entity.hex ++ ":" ++ alert.previous.name ++ "->" ++ alert.severity.name

/-- The alerts of a failed group: quoted descriptions in a bracketed list. -/
def describeAlerts (alerts : List Alert) : String :=
  "[" ++ String.intercalate ", " (alerts.map fun alert => "\"" ++ describeAlert alert ++ "\"") ++
    "]"

def failures (outcome : FlushOutcome) : List FlushFailure :=
  outcome.submissions.filterMap fun entry => entry.2.failure?.map fun error =>
    { group := entry.1.key.display, alerts := describeAlerts entry.1.alerts, error }

end FlushOutcome

/-- Hands groups to a sink, one after the other. No failure ends the row. -/
def submitAll {σ : Type} (sink : Sink σ) :
    List AlertGroup → σ → List (AlertGroup × Submission) × σ
  | [], state => ([], state)
  | group :: rest, state =>
    let (submission, state) := sink group state
    let (others, state) := submitAll sink rest state
    ((group, submission) :: others, state)

end Alerting
