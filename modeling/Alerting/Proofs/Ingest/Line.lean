import Alerting.Ingest
import Alerting.Proofs.Json.Literal
import Mathlib.Data.List.TakeWhile

/-!
# One line of input

What a line means depends on its text alone, without the blanks at its ends. A carriage
return is such a blank, so it makes no difference whether one is taken off the bytes of the
line before they are read as text.
-/

namespace Alerting

/-! ## Text at the end of a line -/

namespace Bytes

theorem ofText_of_toText? {bytes : Bytes} {text : String} (decodes : toText? bytes = some text) :
    ofText text = bytes := by
  rw [toText?, String.fromUTF8?] at decodes
  split at decodes
  · cases decodes
    rfl
  · cases decodes

theorem ofText_append (first second : String) :
    ofText (first ++ second) = ofText first ++ ofText second := by
  simp [ofText]

/-- Bytes are text if they are with one more byte that begins a character. -/
theorem isSome_toText?_of_concat {bytes : Bytes} {byte : UInt8} (begins : byte.IsUTF8FirstByte)
    {text : String} (decodes : toText? (bytes ++ [byte]) = some text) :
    (toText? bytes).isSome = true := by
  have encoded : text.toByteArray = ⟨(bytes ++ [byte]).toArray⟩ := by
    rw [← ofText_of_toText? decodes]
    simp [ofText]
  have inside : (⟨bytes.length⟩ : String.Pos.Raw) < text.rawEndPos := by
    rw [String.Pos.Raw.lt_iff]
    simp [String.rawEndPos, String.utf8ByteSize, encoded, ByteArray.size]
  have boundary : String.Pos.Raw.IsValid text ⟨bytes.length⟩ := by
    rw [String.Pos.Raw.isValid_iff_isUTF8FirstByte]
    have last : text.getUTF8Byte ⟨bytes.length⟩ inside = byte := by
      simp [String.getUTF8Byte, encoded, ByteArray.getElem_eq_getElem_data]
    exact .inr ⟨inside, last.symm ▸ begins⟩
  have front := (String.Pos.Raw.isValid_iff_isValidUTF8_extract_zero.1 boundary).2
  have before : text.toByteArray.extract 0 bytes.length = ⟨bytes.toArray⟩ := by
    apply ByteArray.ext
    simp [encoded, ByteArray.data_extract]
  rw [before] at front
  rw [toText?, String.fromUTF8?, dif_pos front]
  rfl

/-- A carriage return after some bytes is one after their text. -/
theorem toText?_concat_return (bytes : Bytes) :
    toText? (bytes ++ [0x0d]) = (toText? bytes).map (· ++ "\r") := by
  have ending : ofText "\r" = [0x0d] := by decide +kernel
  cases decodes : toText? bytes with
  | some text =>
    rw [← ofText_of_toText? decodes, ← ending, ← ofText_append, toText?_ofText]
    rfl
  | none =>
    cases longer : toText? (bytes ++ [0x0d]) with
    | none => rfl
    | some text =>
      have shorter := isSome_toText?_of_concat (by decide) longer
      rw [decodes] at shorter
      cases shorter

end Bytes

/-- Nothing is left of a text of blanks, and of no other. -/
theorem isEmpty_trimBlanks (text : String) : (trimBlanks text).isEmpty = isBlankText text := by
  have front : text.toList.all isBlankChar = (text.toList.dropWhile isBlankChar).all isBlankChar :=
    calc text.toList.all isBlankChar
        = (text.toList.takeWhile isBlankChar ++ text.toList.dropWhile isBlankChar).all
            isBlankChar := by
          rw [List.takeWhile_append_dropWhile]
      _ = (text.toList.dropWhile isBlankChar).all isBlankChar := by
          rw [List.all_append, List.all_takeWhile, Bool.true_and]
  rw [isBlankText, front, Bool.eq_iff_iff]
  simp only [trimBlanks, String.isEmpty_iff, ← String.toList_eq_nil_iff, String.toList_ofList,
    List.reverse_eq_nil_iff, List.dropWhile_eq_nil_iff, List.mem_reverse, List.all_eq_true]

theorem trimBlanks_append_return (text : String) : trimBlanks (text ++ "\r") = trimBlanks text := by
  have blank : isBlankChar '\r' = true := by decide
  have ending : "\r".toList = ['\r'] := rfl
  rw [trimBlanks, trimBlanks, String.toList_append, ending, List.dropWhile_append]
  cases text.toList.dropWhile isBlankChar with
  | nil => simp [blank]
  | cons first others => simp [blank]

namespace Ingest

/-! ## The meaning of a line -/

/-- Whether a line is valid UTF-8. -/
def isText (line : Bytes) : Bool := (Bytes.toText? line).isSome

/-- Whether a line is a text of blanks. -/
def isBlankLine (line : Bytes) : Bool := (Bytes.toText? line).any isBlankText

/-- The observation whose JSON document a line holds between its blanks. -/
def observationIn? (line : Bytes) : Option Observation := do
  let text ← Bytes.toText? line
  let json ← Json.read (Bytes.ofText (trimBlanks text))
  Observation.ofJson? json

/-- Whether a line is neither blank nor an observation. -/
def isMalformed (line : Bytes) : Bool := !isBlankLine line && (observationIn? line).isNone

theorem readLine_eq_notText_iff {line : Bytes} : readLine line = .notText ↔ isText line = false := by
  cases decodes : Bytes.toText? line with
  | none => simp [readLine, isText, decodes]
  | some text =>
    simp only [readLine, isText, decodes, Option.isSome_some, Bool.true_eq_false, iff_false]
    split
    · exact LineMeaning.noConfusion
    · split <;> exact LineMeaning.noConfusion

/-- A line of blanks holds no document. -/
theorem observationIn?_of_isBlankLine {line : Bytes} (blank : isBlankLine line = true) :
    observationIn? line = none := by
  rcases (Option.any_eq_true _ _).1 blank with ⟨text, decodes, blanks⟩
  have nothing : trimBlanks text = "" := by
    rw [← String.isEmpty_iff, isEmpty_trimBlanks, blanks]
  have document : Json.read (Bytes.ofText "") = none := by decide +kernel
  simp [observationIn?, decodes, nothing, document]

theorem observation?_readLine (line : Bytes) :
    (readLine line).observation? = observationIn? line := by
  cases decodes : Bytes.toText? line with
  | none => simp [readLine, observationIn?, decodes, LineMeaning.observation?]
  | some text =>
    have blank := isEmpty_trimBlanks text
    simp only [readLine, decodes, blank]
    split
    · rename_i blanks
      exact (observationIn?_of_isBlankLine (by simp [isBlankLine, decodes, blanks])).symm
    · simp only [observationIn?, decodes, Option.bind_eq_bind, Option.bind_some]
      cases (Json.read (Bytes.ofText (trimBlanks text))).bind Observation.ofJson? <;> rfl

theorem readLine_eq_malformed_iff {line : Bytes} (text : isText line = true) :
    readLine line = .malformed ↔ isMalformed line = true := by
  rcases Option.isSome_iff_exists.1 text with ⟨text, decodes⟩
  have blank := isEmpty_trimBlanks text
  simp only [readLine, isMalformed, isBlankLine, observationIn?, decodes, blank, Option.any_some,
    Option.bind_eq_bind, Option.bind_some]
  cases isBlankText text with
  | true => simp
  | false =>
    cases (Json.read (Bytes.ofText (trimBlanks text))).bind Observation.ofJson? <;> simp

/-! ## The end of a line -/

/-- A line without a carriage return at its end. -/
def withoutReturn (line : Bytes) : Bytes :=
  if line.getLast? = some 0x0d then line.dropLast else line

/-- A carriage return at its end does not bear on what a line means. -/
theorem readLine_withoutReturn (line : Bytes) : readLine (withoutReturn line) = readLine line := by
  rw [withoutReturn]
  split
  · rename_i ends
    obtain ⟨front, rfl⟩ : ∃ front, line = front ++ [0x0d] := List.getLast?_eq_some_iff.1 ends
    rw [List.dropLast_concat, readLine, readLine, Bytes.toText?_concat_return]
    cases Bytes.toText? front with
    | none => rfl
    | some text => simp only [Option.map_some, trimBlanks_append_return]
  · rfl

end Ingest

end Alerting
