import Alerting.Proofs.Ingest.Line
import Mathlib.Data.List.Basic

/-!
# Reading a whole input

An input is made of lines, and as long as they are text each one counts for itself: a line
that is neither blank nor an observation adds one to the number of skipped lines and bears on
no other line. A line that is no text ends the input instead, and what follows it is lost.
-/

namespace Alerting.Ingest

/-! ## Lines -/

/-- How an input is made of lines. A line feed ends a line and takes a carriage return before
it along; the last line needs no line feed. -/
inductive MadeOf : Bytes → List Bytes → Prop
  | empty : MadeOf [] []
  | last {line : Bytes} (nonempty : line ≠ []) (unbroken : 0x0a ∉ line) : MadeOf line [line]
  | line {line rest : Bytes} {others : List Bytes} (unbroken : 0x0a ∉ line)
      (madeOf : MadeOf rest others) :
      MadeOf (line ++ 0x0a :: rest) (withoutReturn line :: others)

theorem lines_append {line : Bytes} (unbroken : 0x0a ∉ line) (rest : Bytes) :
    lines (line ++ 0x0a :: rest) = line :: lines rest := by
  induction line with
  | nil => rfl
  | cons byte front ih =>
    rw [List.mem_cons, not_or] at unbroken
    have more := ih unbroken.2
    rw [lines] at more ⊢
    rw [List.cons_append, List.foldr_cons, more, prependByte, if_neg (Ne.symm unbroken.1)]

/-- Bytes without a line feed stand at the front of the next line, or make the last one. -/
theorem lines_append_of_not_mem {front : Bytes} (nonempty : front ≠ []) (unbroken : 0x0a ∉ front)
    (rest : Bytes) :
    lines (front ++ rest) = (front ++ (lines rest).headD []) :: (lines rest).tail := by
  induction front with
  | nil => exact absurd rfl nonempty
  | cons byte front ih =>
    rw [List.mem_cons, not_or] at unbroken
    have prepended (tail : Bytes) : lines (byte :: tail) = prependByte byte (lines tail) := rfl
    rw [List.cons_append, prepended, prependByte.eq_def, if_neg (Ne.symm unbroken.1)]
    cases front with
    | nil => cases more : lines rest <;> simp [more]
    | cons next others =>
      rw [ih (by simp) unbroken.2]
      rfl

theorem lines_of_not_mem {line : Bytes} (nonempty : line ≠ []) (unbroken : 0x0a ∉ line) :
    lines line = [line] := by
  have whole := lines_append_of_not_mem nonempty unbroken []
  rw [List.append_nil] at whole
  rw [whole]
  exact congrArg (· :: []) (List.append_nil line)

theorem prependByte_cons_append (byte : UInt8) (line : Bytes) (others more : List Bytes) :
    ∃ first rest, prependByte byte (line :: others) = first :: rest ∧
      prependByte byte (line :: others ++ more) = first :: rest ++ more := by
  by_cases feed : byte = 0x0a
  · exact ⟨[], line :: others, by simp [prependByte, feed], by simp [prependByte, feed]⟩
  · exact ⟨byte :: line, others, by simp [prependByte, feed], by simp [prependByte, feed]⟩

/-- Behind a line feed the lines are those of what stands there. -/
theorem lines_append_of_feed (front rest : Bytes) :
    ∃ line others, lines (front ++ [0x0a]) = line :: others ∧
      lines (front ++ 0x0a :: rest) = line :: others ++ lines rest := by
  induction front with
  | nil => exact ⟨[], [], rfl, rfl⟩
  | cons byte front ih =>
    rcases ih with ⟨line, others, ended, followed⟩
    have prepended (tail : Bytes) : lines (byte :: tail) = prependByte byte (lines tail) := rfl
    rw [List.cons_append, List.cons_append, prepended, prepended, ended, followed]
    exact prependByte_cons_append byte line others (lines rest)

theorem lines_append_of_ends {front : Bytes} (ends : front = [] ∨ front.getLast? = some 0x0a)
    (rest : Bytes) : lines (front ++ rest) = lines front ++ lines rest := by
  rcases ends with rfl | ends
  · rfl
  · obtain ⟨front, rfl⟩ : ∃ before, front = before ++ [0x0a] := List.getLast?_eq_some_iff.1 ends
    rcases lines_append_of_feed front rest with ⟨line, others, ended, followed⟩
    rw [List.append_assoc, List.singleton_append, followed, ended]

/-- Every input is made of lines. -/
theorem exists_madeOf (input : Bytes) : ∃ parts, MadeOf input parts := by
  induction input with
  | nil => exact ⟨[], .empty⟩
  | cons byte rest ih =>
    rcases ih with ⟨parts, madeOf⟩
    by_cases feed : byte = 0x0a
    · subst feed
      exact ⟨_, .line (List.not_mem_nil) madeOf⟩
    · have unbroken {line : Bytes} (others : 0x0a ∉ line) : 0x0a ∉ byte :: line :=
        List.not_mem_cons_of_ne_of_not_mem (Ne.symm feed) others
      cases madeOf with
      | empty => exact ⟨_, .last (List.cons_ne_nil _ _) (unbroken List.not_mem_nil)⟩
      | last _ others => exact ⟨_, .last (List.cons_ne_nil _ _) (unbroken others)⟩
      | line others madeOf => exact ⟨_, .line (unbroken others) madeOf⟩

/-- The lines that an input is made of mean what the lines mean that are read. -/
theorem MadeOf.map_readLine {input : Bytes} {parts : List Bytes} (madeOf : MadeOf input parts) :
    (lines input).map readLine = parts.map readLine := by
  induction madeOf with
  | empty => rfl
  | last nonempty unbroken => rw [lines_of_not_mem nonempty unbroken]
  | line unbroken _ ih =>
    rw [lines_append unbroken, List.map_cons, List.map_cons, ih, readLine_withoutReturn]

theorem length_malformedNumbers (meanings : List LineMeaning) :
    (malformedNumbers meanings).length = meanings.countP (· = .malformed) := by
  have numbered (start : Nat) : ((meanings.zipIdx start).filterMap fun entry =>
      if entry.1 = .malformed then some entry.2 else none).length =
      meanings.countP (· = .malformed) := by
    induction meanings generalizing start with
    | nil => rfl
    | cons meaning rest ih =>
      rw [List.zipIdx_cons, List.filterMap_cons, List.countP_cons]
      by_cases malformed : meaning = .malformed <;> simp [malformed, ih]
  exact numbered 1

/-- What an input brings depends on what its lines mean. -/
theorem read_of_map_readLine {input : Bytes} {parts : List Bytes}
    (same : (lines input).map readLine = parts.map readLine) :
    (read input).observations = (parts.takeWhile isText).filterMap observationIn? ∧
      (read input).result =
        if parts.all isText then .ok (parts.countP isMalformed) else .error .notText := by
  have readable : (fun line => decide (readLine line ≠ .notText)) = isText := by
    funext line
    cases text : isText line with
    | true => simp [readLine_eq_notText_iff, text]
    | false => simp [readLine_eq_notText_iff, text]
  have taken : ((lines input).map readLine).takeWhile (fun meaning => decide (meaning ≠ .notText)) =
      (parts.takeWhile isText).map readLine := by
    rw [same, List.takeWhile_map, ← readable]
    rfl
  constructor
  · simp only [read, taken, List.filterMap_map]
    exact List.filterMap_congr fun line _ => observation?_readLine line
  · have broken : (read input).isBroken = !parts.all isText := by
      rw [read, same, Bool.eq_iff_iff, List.contains_iff_mem, List.mem_map]
      simp only [readLine_eq_notText_iff, Bool.not_eq_true', List.all_eq_false,
        Bool.not_eq_true]
    rw [Reading.result, broken]
    cases texts : parts.all isText with
    | false => rfl
    | true =>
      have whole : parts.takeWhile isText = parts :=
        List.takeWhile_eq_self_iff.2 (List.all_eq_true.1 texts)
      have skipped : (read input).skippedLines.length = parts.countP isMalformed := by
        simp only [read, taken, length_malformedNumbers, whole, List.countP_map]
        apply List.countP_congr
        intro line member
        have text := List.all_eq_true.1 texts line member
        simpa using readLine_eq_malformed_iff text
      simp [skipped]

/-- Of what an input brings, a malformed line changes the number of skipped lines alone. -/
theorem read_append_malformed {front bad : Bytes} (back : Bytes)
    (ends : front = [] ∨ front.getLast? = some 0x0a) (unbroken : 0x0a ∉ bad)
    (text : isText bad = true) (malformed : isMalformed bad = true) :
    (read (front ++ (bad ++ 0x0a :: back))).observations = (read (front ++ back)).observations ∧
      (read (front ++ (bad ++ 0x0a :: back))).result =
        (read (front ++ back)).result.map (· + 1) := by
  have nothing : observationIn? bad = none := by
    simp only [isMalformed, Bool.and_eq_true, Option.isNone_iff_eq_none] at malformed
    exact malformed.2
  have withBad : lines (front ++ (bad ++ 0x0a :: back)) = lines front ++ bad :: lines back := by
    rw [lines_append_of_ends ends, lines_append unbroken]
  rcases read_of_map_readLine (congrArg (List.map readLine) withBad) with ⟨observed, resulted⟩
  rcases read_of_map_readLine (congrArg (List.map readLine) (lines_append_of_ends ends back)) with
    ⟨observedWithout, resultedWithout⟩
  rw [observed, observedWithout, resulted, resultedWithout]
  constructor
  · induction lines front with
    | nil => simp [text, nothing]
    | cons line rest ih =>
      cases decodes : isText line <;> simp [decodes, List.filterMap_cons, ih]
  · have texts : (lines front ++ bad :: lines back).all isText =
        (lines front ++ lines back).all isText := by
      simp [text]
    have count : (lines front ++ bad :: lines back).countP isMalformed =
        (lines front ++ lines back).countP isMalformed + 1 := by
      simp [malformed]
      omega
    rw [texts, count]
    split <;> rfl

/-- Every input is made of lines. If they are all text, the input is read to its end, and it
brings the observations of its lines in their order and the number of lines that are neither
blank nor an observation. Such a line may as well be left out: it changes nothing but that
number. -/
theorem malformed_lines_are_skipped (input : Bytes) :
    (∃ parts, MadeOf input parts) ∧
    (∀ parts, MadeOf input parts → (∀ line ∈ parts, isText line = true) →
      (read input).observations = parts.filterMap observationIn? ∧
      (read input).result = .ok (parts.countP isMalformed)) ∧
    ∀ front bad back : Bytes, input = front ++ (bad ++ 0x0a :: back) →
      front = [] ∨ front.getLast? = some 0x0a → 0x0a ∉ bad → isText bad = true →
      isMalformed bad = true →
      (read input).observations = (read (front ++ back)).observations ∧
      (read input).result = (read (front ++ back)).result.map (· + 1) := by
  refine ⟨exists_madeOf input, ?_, ?_⟩
  · intro parts madeOf texts
    rcases read_of_map_readLine madeOf.map_readLine with ⟨observed, resulted⟩
    rw [observed, resulted, List.takeWhile_eq_self_iff.2 texts, if_pos (List.all_eq_true.2 texts)]
    exact ⟨rfl, rfl⟩
  · rintro front bad back rfl ends unbroken text malformed
    exact read_append_malformed back ends unbroken text malformed

/-- A line that is no document is counted, and the observation on the next line is read. -/
theorem malformed_lines_are_skipped_before_observation :
    let document := Bytes.ofText
      "\x7b\"alert_id\":1,\"state\":\"bad\",\"timestamp\":5\x7d"
    let words := Bytes.ofText "not json"
    let input := words ++ 0x0a :: (document ++ [0x0d] ++ [0x0a])
    MadeOf input [words, document] ∧ (∀ line ∈ [words, document], isText line = true) ∧
      (read input).observations = [⟨none, 1, ∅, .bad, 5⟩] ∧ (read input).result = .ok 1 ∧
      (read input).observations = (read (document ++ [0x0d] ++ [0x0a])).observations := by
  intro document words input
  have madeOf : MadeOf input [words, document] := by
    have ended : withoutReturn (document ++ [0x0d]) = document := by decide +kernel
    have whole : withoutReturn words = words := by decide +kernel
    rw [← whole, ← ended]
    exact .line (by decide +kernel) (.line (by decide +kernel) .empty)
  have texts : ∀ line ∈ [words, document], isText line = true := by decide +kernel
  rcases malformed_lines_are_skipped input with ⟨-, reads, skips⟩
  rcases reads _ madeOf texts with ⟨observed, resulted⟩
  refine ⟨madeOf, texts, ?_, ?_, ?_⟩
  · rw [observed]
    decide +kernel
  · rw [resulted]
    decide +kernel
  · exact (skips [] words _ rfl (.inl rfl) (by decide +kernel) (by decide +kernel)
      (by decide +kernel)).1

/-- A line that is no text is not skipped: the observation on the next line is lost, and no
number of skipped lines is given. -/
theorem undecodable_line_ends_input :
    let document := Bytes.ofText
      "\x7b\"alert_id\":1,\"state\":\"bad\",\"timestamp\":5\x7d"
    let input := [0xff] ++ 0x0a :: (document ++ [0x0a])
    MadeOf input [[0xff], document] ∧
      [[0xff], document].filterMap observationIn? = [⟨none, 1, ∅, .bad, 5⟩] ∧
      [[0xff], document].countP isMalformed = 1 ∧
      (read input).observations = [] ∧ (read input).result = .error .notText := by
  intro document input
  refine ⟨?_, ?_⟩
  · have whole : withoutReturn document = document := by decide +kernel
    rw [← whole]
    exact .line (by decide) (.line (by decide +kernel) .empty)
  · decide +kernel

end Alerting.Ingest
