/-!
# Colours on a terminal

Whether control sequences may be printed. The environment can forbid them or ask for
them; without a word from it they go to terminals only.
-/

namespace Alerting

/-- What is known about where the program prints. -/
structure TerminalSetting where
  /-- The output goes to a terminal. -/
  isTerminal : Bool := false
  noColor : Option String := none
  colorForced : Option String := none
  color : Option String := none
  terminalType : Option String := none
  /-- The program runs unattended, where the output is kept with its colours. -/
  unattended : Option String := none
  deriving DecidableEq, Repr

namespace TerminalSetting

/-- A variable that is set to some text. -/
def isFilled (value : Option String) : Bool := value.getD "" ≠ ""

/-- A terminal that is known to have colours, or is said to have them. -/
def knowsColor (setting : TerminalSetting) : Bool :=
  setting.color.isSome || setting.unattended.isSome ||
    (setting.terminalType.isSome && setting.terminalType ≠ some "dumb")

/-- Tells whether control sequences may be printed. Of the variables the first counts. -/
def allowsControls (setting : TerminalSetting) : Bool :=
  if isFilled setting.noColor then false
  else if isFilled setting.colorForced then true
  else if setting.color = some "0" then false
  else setting.isTerminal && setting.knowsColor

end TerminalSetting

end Alerting
