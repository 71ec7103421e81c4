import Alerting.FileContent
import Alerting.Instant
import Alerting.Terminal.Setting

/-!
# Hosts

What the program needs from the machine it runs on. A host is given for a monad: the
machine itself in one, a tree in memory in another. An action on files is a value, so
that a sequence of them can be looked at before any is performed.
-/

namespace Alerting

/-- An action on files. -/
inductive FileAction where
  /-- Makes a directory and those above it; nothing to do where they stand. -/
  | createDirectories (path : String)
  /-- Makes an empty file, or empties one. -/
  | create (path : String)
  | append (path : String) (content : Bytes)
  /-- Waits until a file is safe on the disk. -/
  | sync (path : String)
  /-- Puts a file in the place of another in one step. -/
  | rename (source target : String)
  | remove (path : String)
  deriving DecidableEq

/-- Performs actions in order and stops at the first that fails. Tells whether none did. -/
def performAll {m : Type → Type} [Monad m] (perform : FileAction → m Bool) :
    List FileAction → m Bool
  | [] => pure true
  | action :: rest => do
    if ← perform action then performAll perform rest else pure false

/-- Where input comes from. -/
inductive InputSource where
  | standardInput
  | file (path : String)
  deriving DecidableEq, Repr

/-- What a machine offers. -/
structure Host (m : Type → Type) where
  /-- What the environment says under a name. -/
  environment : String → m (Option String)
  /-- Tells whether the output goes to a terminal. -/
  printsToTerminal : m Bool
  read : String → m FileContent
  /-- Performs an action and tells whether it succeeded. -/
  perform : FileAction → m Bool
  standardInput : m Bytes
  /-- The time. -/
  now : m Instant
  /-- The seconds that the clock of timers shows. It never goes back. -/
  timerClock : m Nat
  /-- A number that no other running program is given. -/
  mark : m Nat

/-- What an input source holds. -/
def Host.input {m : Type → Type} [Monad m] (host : Host m) : InputSource → m FileContent
  | .standardInput => do pure (.bytes (← host.standardInput))
  | .file path => host.read path

/-- What the machine tells about where the program prints. -/
def Host.terminalSetting {m : Type → Type} [Monad m] (host : Host m) : m TerminalSetting := do
  pure {
    isTerminal := ← host.printsToTerminal
    noColor := ← host.environment "NO_COLOR"
    colorForced := ← host.environment "CLICOLOR_FORCE"
    color := ← host.environment "CLICOLOR"
    terminalType := ← host.environment "TERM"
    unattended := ← host.environment "CI" }

end Alerting
