import Alerting.CommandLine
import Alerting.CommandLine.Help
import Alerting.Config.Loading
import Alerting.Session.Run
import Alerting.Summary
import Alerting.Terminal.ControlSequence

/-!
# The program

From the words of the command line to what is printed, what is logged, and how the
program exits. All that it does to the machine goes through its host.
-/

namespace Alerting

/-- How the program exits. -/
inductive ProgramExit where
  | success
  /-- The operator is told the outermost part of the message. -/
  | failure (message : String)
  /-- The command line gives no command. -/
  | usage (reason : NoCommand)
  /-- The program breaks down. -/
  | crash
  deriving DecidableEq, Repr

def ProgramExit.code : ProgramExit → UInt8
  | .success => 0
  | .failure _ => 1
  | .usage (.help _) => 0
  | .usage _ => 2
  | .crash => 101

/-- What the operator is told about an exit, if anything. -/
def ProgramExit.message? : ProgramExit → Option String
  | .success | .usage (.help _) | .crash => none
  | .failure message => some ("Error: " ++ message)
  | .usage reason => some ("error: " ++ reason.message ++ "\n\nFor more information, try '--help'.")

/-- The line of an event in the log. -/
def SessionEvent.line (event : SessionEvent) : LogFormat → String
  | .text => String.intercalate " " (event.name :: event.fields.map fun field =>
      field.1 ++ "=" ++ field.2.toText)
  | .json => (Json.record (("event", .ofText event.name) :: event.fields)).toText

/-- What the program prints and logs, and how it exits. -/
structure ProgramOutcome where
  output : Bytes := []
  log : List String := []
  exit : ProgramExit := .success
  deriving DecidableEq

/-- How a session that failed makes the program exit. -/
def SessionFailure.exit : SessionFailure → ProgramExit
  | .start (.config error) => .failure error.headline
  | .start (.checkpoint error) => .failure error.message
  | .start (.setup _) => .crash
  | .save error => .failure error.message

namespace Program

variable {m : Type → Type} [Monad m]

/-- Loads the configuration and runs a session with it. -/
def runSession (host : Host m) (options : RunOptions) (logFormat : LogFormat) :
    m ProgramOutcome := do
  match Config.load options.config (← host.read options.config) with
  | .error error => pure { exit := .failure error.headline }
  | .ok config =>
    let checkpoint := options.checkpoint <|> config.checkpointPath
    let outcome ← Session.run host config options.source checkpoint
    let exit := match outcome.failure with
      | none => .success
      | some failure => failure.exit
    let log := outcome.events.map fun event => event.line logFormat
    pure { output := outcome.output, log, exit }

/-- Tells whether a configuration can be loaded. -/
def checkConfig (path : String) (content : FileContent) : ProgramOutcome :=
  match Config.load path content with
  | .error _ => { exit := .failure ("invalid config " ++ path) }
  | .ok config =>
    let line := path ++ ": ok (" ++ toString config.alerts.length ++ " alerts)\n"
    { output := Bytes.ofText line }

/-- Summarizes a checkpoint. -/
def inspect (path : String) (asJson : Bool) (content : FileContent) : ProgramOutcome :=
  match Checkpoint.load path content with
  | .error error => { exit := .failure error.message }
  | .ok none => { exit := .failure ("checkpoint " ++ path ++ " does not exist") }
  | .ok (some checkpoint) => { output := checkpoint.inspection asJson }

/-- Does what a command line says. -/
def perform (host : Host m) (line : CommandLine) : m ProgramOutcome :=
  match line.command with
  | .run options => runSession host options line.logFormat
  | .checkConfig path => do pure (checkConfig path (← host.read path))
  | .inspect path asJson => do pure (inspect path asJson (← host.read path))

/-- Prints help: with control sequences where they may be printed, else without any. -/
def help (setting : TerminalSetting) (configVariable : Option String) (topic : HelpTopic) : Bytes :=
  let text := Bytes.ofText (topic.text configVariable).display
  if setting.allowsControls then text else text.withoutControls

/-- Runs the program with the words of its command line. -/
def run (host : Host m) (words : List String) : m ProgramOutcome := do
  let configVariable ← host.environment "NAGWATCH_CONFIG"
  match CommandLine.read configVariable words with
  | .ok line => perform host line
  | .error (.help topic) =>
    let output := help (← host.terminalSetting) configVariable topic
    pure { output, exit := .usage (.help topic) }
  | .error reason => pure { exit := .usage reason }

end Program

end Alerting
