import Alerting.Blank
import Alerting.Json.Reader
import Alerting.Observation.Json

/-!
# Reading observations line by line

The input is one JSON document per line. Blank lines mean nothing, and a line that is no
observation is counted and skipped. A line that is not valid UTF-8 ends the input: what
came before it counts.
-/

namespace Alerting

namespace Ingest

/-- Puts a byte before lines that follow it. -/
def prependByte (byte : UInt8) (lines : List Bytes) : List Bytes :=
  if byte = 0x0a then [] :: lines
  else match lines with
    | [] => [[byte]]
    | line :: others => (byte :: line) :: others

/-- The lines of a byte sequence; the last one needs no line feed. -/
def lines (input : Bytes) : List Bytes := input.foldr prependByte []

/-- What one line of input means. -/
inductive LineMeaning where
  | blank
  | observation (observation : Observation)
  | malformed
  | notText
  deriving DecidableEq

/-- Reads one line. A carriage return at its end is a blank. -/
def readLine (line : Bytes) : LineMeaning :=
  match Bytes.toText? line with
  | none => .notText
  | some text =>
    let trimmed := trimBlanks text
    if trimmed.isEmpty then .blank
    else match (Json.read (Bytes.ofText trimmed)).bind Observation.ofJson? with
      | some observation => .observation observation
      | none => .malformed

/-- What an input holds. -/
structure Reading where
  observations : List Observation
  /-- The numbers of the lines that were skipped, from one on. -/
  skippedLines : List Nat
  /-- The input ended at a line that is not valid UTF-8. -/
  isBroken : Bool
  deriving DecidableEq

/-- The observation of a line that holds one. -/
def LineMeaning.observation? : LineMeaning → Option Observation
  | .observation found => some found
  | _ => none

/-- The numbers of the malformed lines, the first line having the number one. -/
def malformedNumbers (meanings : List LineMeaning) : List Nat :=
  (meanings.zipIdx 1).filterMap fun entry =>
    if entry.1 = .malformed then some entry.2 else none

/-- Reads an input. -/
def read (input : Bytes) : Reading :=
  let meanings := (lines input).map readLine
  let readable := meanings.takeWhile fun meaning => meaning ≠ .notText
  { observations := readable.filterMap LineMeaning.observation?
    skippedLines := malformedNumbers readable
    isBroken := meanings.contains .notText }

/-- Why no number of skipped lines can be given at the end of the input. -/
inductive InputError where
  | cannotOpen (path : String)
  | notText
  deriving DecidableEq, Repr

/-- What the operator is told. -/
def InputError.message : InputError → String
  | .cannotOpen path => "opening input " ++ path
  | .notText => "reading input"

/-- The number of skipped lines, if the whole input could be read. -/
def Reading.result (reading : Reading) : Except InputError Nat :=
  if reading.isBroken then .error .notText else .ok reading.skippedLines.length

end Ingest

end Alerting
