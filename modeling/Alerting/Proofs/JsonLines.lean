import Alerting.Flush.Outcome
import Alerting.JsonLines
import Alerting.Proofs.Group.RoundTrip
import Alerting.Proofs.Json.Printable

/-!
# Emitted lines are read back

The document of a group holds no line feed, whatever texts the group holds, so the line feeds
of a stream of lines are the ends of its lines. A writer that does not fail therefore holds,
after any number of groups, a stream from which exactly these groups are read back.
-/

namespace Alerting

namespace AlertGroup

/-- The document of a group is on one line. -/
theorem feed_not_mem_print (group : AlertGroup) : 0x0a ∉ group.toJson.print :=
  (faithful.spelled group).printable.feed_not_mem

theorem ofLine?_print (group : AlertGroup) : ofLine? group.toJson.print = some group := by
  have noBlanks : ([] : Bytes).all Json.isBlank = true := rfl
  have document := faithful.read_print group noBlanks
  rwa [List.append_nil] at document

/-- What stands between the line feeds of a stream of lines: the documents, and then nothing. -/
theorem splitOn_flatMap_line (groups : List AlertGroup) :
    (groups.flatMap line).splitOn 0x0a = groups.map (fun group => group.toJson.print) ++ [[]] := by
  induction groups with
  | nil => rfl
  | cons group rest ih =>
    rw [List.flatMap_cons, line, List.append_assoc, List.singleton_append,
      List.splitOn_append_cons_self_of_not_mem group.feed_not_mem_print, ih]
    rfl

theorem mapM_ofLine?_print (groups : List AlertGroup) :
    (groups.map fun group => group.toJson.print).mapM ofLine? = some groups :=
  (Json.mapM_map_eq_some fun group _ => group.ofLine?_print).trans (by rw [List.map_id'])

end AlertGroup

section Writing

variable {ω : Type}

/-- A writer that never fails, with the bytes that its states hold. -/
structure Writer.Reliable (writer : Writer ω) (written : ω → Bytes) : Prop where
  writes : ∀ bytes state, (writer.write bytes state).1 = none ∧
    written (writer.write bytes state).2 = written state ++ bytes
  flushes : ∀ state, (writer.flush state).1 = none ∧
    written (writer.flush state).2 = written state

theorem Writer.reliable_append : Writer.append.Reliable id where
  writes _ _ := ⟨rfl, rfl⟩
  flushes _ := ⟨rfl, rfl⟩

namespace Writer.Reliable

variable {writer : Writer ω} {written : ω → Bytes}

/-- A group that is handed to such a writer is taken, and its line stands behind the others. -/
theorem jsonLines_eq (reliable : writer.Reliable written) (group : AlertGroup) (state : ω) :
    ∃ last, jsonLines writer group state = (.accepted, last) ∧
      written last = written state ++ group.line := by
  rcases wrote : writer.write group.line state with ⟨failure, middle⟩
  rcases flushed : writer.flush middle with ⟨failure', last⟩
  have noFailure := reliable.writes group.line state
  have noFailure' := reliable.flushes middle
  rw [wrote] at noFailure
  rw [flushed] at noFailure'
  rcases noFailure with ⟨rfl, appended⟩
  rcases noFailure' with ⟨rfl, kept⟩
  refine ⟨last, ?_, kept.trans appended⟩
  simp only [jsonLines, wrote, flushed]

/-- Every group of a sequence is taken, and the stream grows by their lines. -/
theorem submitAll_jsonLines (reliable : writer.Reliable written) (groups : List AlertGroup)
    (state : ω) :
    (submitAll (jsonLines writer) groups state).1 =
        groups.map (fun group => (group, Submission.accepted)) ∧
      written (submitAll (jsonLines writer) groups state).2 =
        written state ++ groups.flatMap AlertGroup.line := by
  induction groups generalizing state with
  | nil => simp [submitAll]
  | cons group rest ih =>
    rcases reliable.jsonLines_eq group state with ⟨next, first, appended⟩
    rcases ih next with ⟨accepted, others⟩
    rw [submitAll, first]
    refine ⟨congrArg _ accepted, others.trans ?_⟩
    rw [appended, List.flatMap_cons, List.append_assoc]

end Writer.Reliable

/--
A sequence of groups that is handed to the writer of lines, over a writer that does not fail.
Every group is taken, and what is written for them can be split again: at its line feeds it
falls into one line for each group and an empty rest, and these lines are read as exactly the
groups, in their order.
-/
theorem emitted_lines_are_read_back {writer : Writer ω} {written : ω → Bytes}
    (reliable : writer.Reliable written) (groups : List AlertGroup) (state : ω) :
    let emitted := submitAll (jsonLines writer) groups state
    emitted.1 = groups.map (fun group => (group, Submission.accepted)) ∧
      ∃ stream lines, written emitted.2 = written state ++ stream ∧
        stream.splitOn 0x0a = lines ++ [[]] ∧ lines.length = groups.length ∧
        lines.mapM AlertGroup.ofLine? = some groups := by
  intro emitted
  rcases reliable.submitAll_jsonLines groups state with ⟨accepted, appended⟩
  exact ⟨accepted, groups.flatMap AlertGroup.line, groups.map fun group => group.toJson.print,
    appended, AlertGroup.splitOn_flatMap_line groups, List.length_map _,
    AlertGroup.mapM_ofLine?_print groups⟩

/-- Line feeds and other control characters in every text, an absent value, no alerts, and
numbers at their limits. -/
theorem emitted_lines_are_read_back_control_characters :
    let tags : Tags := SortedMap.ofList [("line\n", "feed\r\n\x00"), ("", "\"\\\u2028")]
    let alert : Alert := {
      namespaceName := "\n", alertId := 18446744073709551615, kind := .healthcheck
      entity := 0, tags, severity := .missing, previous := .good, isNag := true
      raisedAt := Int64.minValue }
    let key : GroupKey := {
      namespaceName := "a\nb", alertId := 0, kind := .metric, keys := ["\n", "\x1f"]
      values := [none, some "\n"] }
    let groups : List AlertGroup := [⟨key, []⟩, ⟨key, [alert, alert]⟩]
    Writer.append.Reliable id ∧
      ∃ lines, (submitAll (jsonLines .append) groups []).2.splitOn 0x0a = lines ++ [[]] ∧
        lines.length = 2 ∧ lines.mapM AlertGroup.ofLine? = some groups := by
  intro tags alert key groups
  rcases emitted_lines_are_read_back Writer.reliable_append groups [] with
    ⟨-, stream, lines, appended, split, counted, read⟩
  refine ⟨Writer.reliable_append, lines, ?_, counted, read⟩
  exact (congrArg (List.splitOn 0x0a) appended).trans split

end Writing

end Alerting
