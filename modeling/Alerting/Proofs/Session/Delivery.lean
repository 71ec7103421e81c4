import Alerting.Proofs.Ingest.Reading
import Alerting.Proofs.JsonLines
import Alerting.Proofs.Pipeline.Restore
import Alerting.Proofs.Session.Completion
import Alerting.Proofs.Session.Start

/-!
# What a session delivers

A session that goes to the end of its input runs one cycle on all that the input holds. What
this cycle raises is written, each alert once, in a group of its key and in the order in which
it was raised, and the checkpoint holds what the cycle left of each alert. The order in which
the parts of the session take their steps decides at most how the alerts are parted into
groups and in which order the groups are written.
-/

namespace Alerting

namespace Session

/-- The input goes to the pipeline, whatever is logged about it. -/
theorem exists_feed_eq (session : Session) (content : Bytes) :
    ∃ events, session.feed (.bytes content) =
      { session with
        pipeline := (Ingest.read content).observations.foldl Pipeline.observe session.pipeline
        events } := by
  rw [feed]
  split
  · exact ⟨_, rfl⟩
  · exact ⟨_, rfl⟩

end Session

end Alerting
