import Alerting.Program
import Std.Time.DateTime.Timestamp

/-!
# The executable

The machine itself as a host. Everything else is decided by the program.
-/

namespace Alerting

/-- Tells whether an action on the machine succeeded. -/
def succeeds (action : IO Unit) : IO Bool := do
  try
    action
    pure true
  catch _ => pure false

/-- What stands at a path of the machine. -/
def readMachine (path : String) : IO FileContent := do
  try
    let content ← IO.FS.readBinFile path
    pure (.bytes content.toList)
  catch
    | .noFileOrDirectory .. => pure .absent
    | _ => pure .unreadable

/-- Performs an action on the files of the machine. -/
def performOnMachine : FileAction → IO Bool
  | .createDirectories path => succeeds (IO.FS.createDirAll path)
  | .create path => succeeds (IO.FS.writeBinFile path .empty)
  | .append path content => succeeds do
    let handle ← IO.FS.Handle.mk path .append
    handle.write ⟨content.toArray⟩
  | .sync path => succeeds do
    let handle ← IO.FS.Handle.mk path .append
    handle.flush
  | .rename source target => succeeds (IO.FS.rename source target)
  | .remove path => succeeds (IO.FS.removeFile path)

/-- Reads a stream to its end. -/
partial def readToEnd (stream : IO.FS.Stream) (content : ByteArray) : IO ByteArray := do
  let chunk ← stream.read 65536
  if chunk.isEmpty then pure content else readToEnd stream (content ++ chunk)

/-- The machine. -/
def machine : Host IO where
  environment := fun name => IO.getEnv name
  printsToTerminal := do (← IO.getStdout).isTty
  read := readMachine
  perform := performOnMachine
  standardInput := do pure (← readToEnd (← IO.getStdin) .empty).toList
  now := do pure (Int64.ofInt (← Std.Time.Timestamp.now).toSecondsSinceUnixEpoch.val)
  timerClock := do pure ((← IO.monoNanosNow) / Duration.nanosecondsPerSecond)
  mark := do
    let bytes ← IO.getRandomBytes 6
    pure (bytes.toList.foldl (fun number byte => number * 256 + byte.toNat) 0)

end Alerting

/-- Runs the program and prints what it says. -/
def main (words : List String) : IO UInt32 := do
  let outcome ← Alerting.Program.run Alerting.machine words
  let stderr ← IO.getStderr
  for line in outcome.log do stderr.putStrLn line
  let stdout ← IO.getStdout
  stdout.write ⟨outcome.output.toArray⟩
  stdout.flush
  for message in outcome.exit.message?.toList do stderr.putStrLn message
  pure outcome.exit.code.toUInt32
