import Alerting.CommandLine.Reading
import Alerting.Terminal.StyledText

/-!
# Help

What the program says about its command line, in columns.
-/

namespace Alerting

/-- A row of two columns. -/
structure HelpRow where
  left : StyledText
  right : String

namespace HelpRow

/-- The right column of a row, its further lines set in by so many blanks. -/
def indented (indentation : Nat) (text : String) : String :=
  String.intercalate ("\n" ++ String.ofList (List.replicate indentation ' ')) (text.splitOn "\n")

/-- The rows under each other, the right column aligned. -/
def table (rows : List HelpRow) : StyledText :=
  let width := (rows.map fun row => row.left.width).foldl max 0
  .join <| rows.map fun row =>
    let gap := String.ofList (List.replicate (width - row.left.width) ' ') ++ "  "
    .plain "  " ++ row.left ++ .plain (gap ++ indented (width + 4) row.right ++ "\n")

/-- The row of an option that may have a letter of its own. -/
def ofOption (letter : Option String) (name value right : String) : HelpRow :=
  let short : StyledText := match letter with
    | none => .plain "    "
    | some letter => .literal ("-" ++ letter) ++ .plain ", "
  ⟨short ++ .literal ("--" ++ name) ++ .plain value, right⟩

def ofCommand (name right : String) : HelpRow := ⟨.literal name, right⟩

def ofArgument (name right : String) : HelpRow := ⟨.plain name, right⟩

def ofLogFormat : HelpRow :=
  ofOption none "log-format" " <LOG_FORMAT>"
    "Log output format [default: text] [possible values: text, json]"

def ofHelp : HelpRow := ofOption (some "h") "help" "" "Print help"

/-- The row of the configuration shows what the environment says about it. -/
def ofConfig (configVariable : Option String) : HelpRow :=
  ofOption (some "c") "config" " <CONFIG>"
    ("TOML config file [env: NAGWATCH_CONFIG=" ++ configVariable.getD "" ++ "]")

end HelpRow

/-- One line about a command. -/
def CommandLevel.about : CommandLevel → String
  | .program => "Alert state tracking with grouped notifications"
  | .run => "Evaluate observations and emit grouped alerts until stopped"
  | .checkConfig => "Validate a config file and exit"
  | .inspect => "Summarize a checkpoint file"

namespace HelpTopic

def about : HelpTopic → String
  | .level asked => asked.about
  | .help => "Print this message or the help of the given subcommand(s)"

/-- How a command that needs a configuration is used. -/
def configUsage (command : String) : StyledText :=
  .literal command ++ .plain " [OPTIONS] " ++ .literal "--config" ++ .plain " <CONFIG>"

def usage : HelpTopic → StyledText
  | .level .program => .literal "nagwatch" ++ .plain " [OPTIONS] <COMMAND>"
  | .level .run => configUsage "nagwatch run"
  | .level .checkConfig => configUsage "nagwatch check-config"
  | .level .inspect => .literal "nagwatch inspect" ++ .plain " [OPTIONS] <CHECKPOINT>"
  | .help => .literal "nagwatch help" ++ .plain " [COMMAND]..."

/-- The titled tables of a topic. -/
def tables (configVariable : Option String) : HelpTopic → List (String × List HelpRow)
  | .level .program => [
    ("Commands:", [.ofCommand "run" CommandLevel.run.about,
      .ofCommand "check-config" CommandLevel.checkConfig.about,
      .ofCommand "inspect" CommandLevel.inspect.about, .ofCommand "help" HelpTopic.help.about]),
    ("Options:", [.ofLogFormat, .ofHelp])]
  | .level .run => [("Options:", [.ofConfig configVariable, .ofLogFormat,
      .ofOption (some "i") "input" " <INPUT>"
        "NDJSON observation input (\"-\" or absent for stdin)",
      .ofOption none "checkpoint" " <CHECKPOINT>"
        "Checkpoint file (overrides checkpoint.path from the config)", .ofHelp])]
  | .level .checkConfig => [("Options:", [.ofConfig configVariable, .ofLogFormat, .ofHelp])]
  | .level .inspect => [
    ("Arguments:", [.ofArgument "<CHECKPOINT>" "Checkpoint file to read"]),
    ("Options:", [.ofOption none "json" "" "Print JSON instead of a text table", .ofLogFormat,
      .ofHelp])]
  | .help => [("Arguments:", [.ofArgument "[COMMAND]..." "Print help for the subcommand(s)"])]

/-- The help on a topic. -/
def text (configVariable : Option String) (topic : HelpTopic) : StyledText :=
  .plain (topic.about ++ "\n\n") ++ .heading "Usage:" ++ .plain " " ++ topic.usage ++ .plain "\n" ++
    .join ((topic.tables configVariable).map fun table =>
      .plain "\n" ++ .heading table.1 ++ .plain "\n" ++ HelpRow.table table.2)

end HelpTopic

end Alerting
