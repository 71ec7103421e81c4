import Alerting.CommandLine.Reading
import Alerting.Host

/-!
# The command line

Three commands: one runs a session, one checks a configuration, and one summarizes a
checkpoint. The configuration may come from the environment instead of an option. The
format of the log may be given before the command or after it; the latter counts.
-/

namespace Alerting

/-- How the log is written. -/
inductive LogFormat where
  | text
  | json
  deriving DecidableEq, Repr

/-- How a session is to be run. -/
structure RunOptions where
  config : String
  input : Option String := none
  checkpoint : Option String := none
  deriving DecidableEq, Repr

/-- Where the observations come from. A dash stands for standard input. -/
def RunOptions.source (options : RunOptions) : InputSource :=
  match options.input with
  | none | some "-" => .standardInput
  | some path => .file path

/-- What the program is to do. -/
inductive Command where
  | run (options : RunOptions)
  | checkConfig (config : String)
  | inspect (checkpoint : String) (asJson : Bool)
  deriving DecidableEq, Repr

/-- A command with the format of the log. -/
structure CommandLine where
  command : Command
  logFormat : LogFormat := .text
  deriving DecidableEq, Repr

namespace CommandLine

def require (reading : WordReading) (parameter : Parameter) : Except NoCommand String :=
  match reading.value? parameter with
  | none => .error (.missing parameter)
  | some value => .ok value

/-- The path of the configuration: what was given, else what the environment says. -/
def configPath (reading : WordReading) (configVariable : Option String) :
    Except NoCommand String :=
  match reading.value? .config, configVariable with
  | none, some path => do require (← reading.give .config path) .config
  | _, _ => require reading .config

/-- The command that the words of its level give. -/
def commandOf (reading : WordReading) (configVariable : Option String) :
    CommandLevel → Except NoCommand Command
  | .program => .error .missingCommand
  | .run => do
    let config ← configPath reading configVariable
    .ok (.run ⟨config, reading.value? .input, reading.value? .checkpoint⟩)
  | .checkConfig => do .ok (.checkConfig (← configPath reading configVariable))
  | .inspect => do
    .ok (.inspect (← require reading .checkpoint) (reading.value? .json).isSome)

/-- The format that was given last: of two readings the inner one counts. -/
def logFormatOf (inner outer : WordReading) : LogFormat :=
  match inner.value? .logFormat <|> outer.value? .logFormat with
  | some "json" => .json
  | _ => .text

/-- Reads a command line. The variable is what the environment says about the configuration. -/
def read (configVariable : Option String) (words : List String) : Except NoCommand CommandLine := do
  let (outer, found) ← readProgramWords words {}
  match found with
  | none => .error (if outer.given.isEmpty then .nothingGiven else .missingCommand)
  | some (level, rest) =>
    let inner ← WordReading.readWords level rest {}
    let command ← commandOf inner configVariable level
    let outer ← outer.settle
    .ok ⟨command, logFormatOf inner outer⟩

end CommandLine

end Alerting
