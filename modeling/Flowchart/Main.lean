import Flowchart.Command.Arguments
import Flowchart.Command.Report
import Std.Time.DateTime.Timestamp

/-!
# The command line

Reads the arguments and the file that a command names, writes the file that it makes, and prints
its report. The exit code is 1 for a command that fails and 2 for arguments that are no command.
-/

namespace Flowchart

/-- The fault of a file that an error of the system tells. -/
def FileFault.ofError : IO.Error → FileFault
  | .permissionDenied .. => denied
  | .inappropriateType .. => isDirectory
  | .resourceVanished .. => notDirectory
  | _ => missing

/-- The text of a file. -/
def readText (file : String) : IO (Except FileFault String) := do
  try
    let bytes ← IO.FS.readBinFile file
    match String.fromUTF8? bytes with
    | some text => return .ok text
    | none => return .error .notText
  catch e => return .error (FileFault.ofError e)

/-- Writes a text to a file. -/
def writeText (file text : String) : IO (Except FileFault Unit) := do
  try
    IO.FS.writeFile file text
    return .ok ()
  catch e => return .error (FileFault.ofError e)

/-- A number of 128 random bits with the marks of a random identifier. -/
def randomNumber : IO Nat := do
  let high ← IO.rand 0 (0xFFFFFFFFFFFF)
  let middle ← IO.rand 0 (0xFFF)
  let low ← IO.rand 0 (0x3FFFFFFFFFFFFFFF)
  let versioned := (high * 0x10 + 4) * 0x1000 + middle
  return versioned * 0x10000000000000000 + 0x8000000000000000 + low

/-- The time. -/
def currentTime : IO Instant := do
  let now ← Std.Time.Timestamp.now
  return (⟨0, 0, 0⟩ : Instant).addMillis now.toMillisecondsSinceUnixEpoch.val.toNat

/-- Carries out a command. -/
def Command.perform (command : Command) : IO Report := do
  let numbers ← (Array.range 16).mapM fun _ => randomNumber
  let fresh := fun n => Identifier.ofNat (numbers[n]?.getD n)
  let source ← match command.source? with
    | some file => readText file
    | none => pure (.error .missing)
  let saved ← match command.product? fresh with
    | some (file, text) => writeText file text
    | none => pure (.ok ())
  -- Each event is received as soon as it is sent.
  let receives := fun _ => 1
  return command.report { source, saved, now := ← currentTime, fresh, receives }

end Flowchart

open Flowchart in
/-- Runs the command that the arguments ask for. -/
def main (arguments : List String) : IO UInt32 := do
  match Command.ofArguments arguments with
  | .error .helpWanted =>
      IO.println "Usage: blockflow <run|validate|blocks|init|next-run> [OPTIONS]"
      return 0
  | .error .misused =>
      IO.eprintln "Usage: blockflow <run|validate|blocks|init|next-run> [OPTIONS]"
      return 2
  | .ok command =>
      let report ← command.perform
      report.lines.forM fun line => IO.println line
      match report.fault with
      | none => return 0
      | some fault =>
          IO.eprint fault.report
          return 1
