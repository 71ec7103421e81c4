/-!
# Levels of the command line

The words up to a command belong to the program, those after it to the command. Each of
these levels has its own options, and one of them takes a value without an option.
-/

namespace Alerting

/-- Whose words are read. -/
inductive CommandLevel where
  | program
  | run
  | checkConfig
  | inspect
  deriving DecidableEq, Repr

/-- What can be given on the command line. -/
inductive Parameter where
  | logFormat
  | config
  | input
  | checkpoint
  | json
  deriving DecidableEq, Repr

/-- What an option stands for. -/
inductive OptionMeaning where
  /-- The option takes a value. -/
  | value (parameter : Parameter)
  /-- The option says all by being there. -/
  | switch (parameter : Parameter)
  | help
  deriving DecidableEq, Repr

namespace CommandLevel

/-- The command that a word names. -/
def ofCommand? : String → Option CommandLevel
  | "run" => some .run
  | "check-config" => some .checkConfig
  | "inspect" => some .inspect
  | _ => none

/-- The options of a level that are written in full. -/
def long? : CommandLevel → String → Option OptionMeaning
  | _, "help" => some .help
  | _, "log-format" => some (.value .logFormat)
  | .run, "config" | .checkConfig, "config" => some (.value .config)
  | .run, "input" => some (.value .input)
  | .run, "checkpoint" => some (.value .checkpoint)
  | .inspect, "json" => some (.switch .json)
  | _, _ => none

/-- The options of a level that are a single letter. -/
def short? : CommandLevel → Char → Option OptionMeaning
  | _, 'h' => some .help
  | .run, 'c' | .checkConfig, 'c' => some (.value .config)
  | .run, 'i' => some (.value .input)
  | _, _ => none

/-- What a word gives that belongs to no option. -/
def positional? : CommandLevel → Option Parameter
  | .inspect => some .checkpoint
  | _ => none

end CommandLevel

/-- How the operator knows a parameter. -/
def Parameter.name : Parameter → String
  | .logFormat => "--log-format <LOG_FORMAT>"
  | .config => "--config <CONFIG>"
  | .input => "--input <INPUT>"
  | .checkpoint => "<CHECKPOINT>"
  | .json => "--json"

/-- The values that a parameter can have. -/
def Parameter.accepts : Parameter → String → Bool
  | .logFormat, value => value = "text" || value = "json"
  | .json, _ => true
  | _, value => value ≠ ""

end Alerting
