import Alerting.Group.Json
import Alerting.Json.Printer
import Alerting.Json.Reader
import Alerting.Sink

/-!
# Groups as lines of JSON

Each group is one compact JSON document and a line feed. A document holds no line feed
of its own, since strings escape it, so the lines can be told apart again.
-/

namespace Alerting

/-- The line of a group. -/
def AlertGroup.line (group : AlertGroup) : Bytes := group.toJson.print ++ [0x0a]

universe u

/--
Where lines are written. Both operations change the state of the writer and give the
text of the error if they failed; a failed write may have written a part.
-/
structure Writer (ω : Type u) where
  write : Bytes → ω → Option String × ω
  flush : ω → Option String × ω

/-- The sink that writes every group as a line and flushes after it. -/
def jsonLines {ω : Type u} (writer : Writer ω) : Sink ω := fun group state =>
  match writer.write group.line state with
  | (some text, state) => (.refused (.io text), state)
  | (none, state) =>
    match writer.flush state with
    | (some text, state) => (.refused (.io text), state)
    | (none, state) => (.accepted, state)

/-- The writer that appends to a byte sequence and never fails. -/
def Writer.append : Writer Bytes where
  write bytes written := (none, written ++ bytes)
  flush written := (none, written)

/-- The groups that lines hold; no answer if a line holds no group. -/
def AlertGroup.ofLine? (line : Bytes) : Option AlertGroup := (Json.read line).bind ofJson?

end Alerting
