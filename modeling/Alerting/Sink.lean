import Alerting.Group

/-!
# Sinks

Where flushed groups go. A sink may keep a state of its own. It takes a group, refuses
it, or breaks down over it; none of the three says anything about the next group.
-/

namespace Alerting

/-- Why a sink refuses a group. -/
inductive SinkError where
  | full
  | closed
  | io (text : String)
  | encode (text : String)
  deriving DecidableEq, Repr

/-- What the operator is told. -/
def SinkError.message : SinkError → String
  | .full => "sink queue is full"
  | .closed => "sink is closed"
  | .io text => "sink io error: " ++ text
  | .encode text => "sink encode error: " ++ text

/-- What became of a group that was handed to a sink. -/
inductive Submission where
  | accepted
  | refused (error : SinkError)
  /-- The sink broke down, with a message or without one. -/
  | crashed (text : Option String)
  deriving DecidableEq, Repr

namespace Submission

def isAccepted : Submission → Bool
  | .accepted => true
  | _ => false

/-- Why a group was not taken; none if it was. -/
def failure? : Submission → Option String
  | .accepted => none
  | .refused error => some error.message
  | .crashed (some text) => some ("sink panicked: " ++ text)
  | .crashed none => some "sink panicked"

end Submission

universe u

/-- How a sink with states `σ` treats a group. -/
abbrev Sink (σ : Type u) := AlertGroup → σ → Submission × σ

end Alerting
