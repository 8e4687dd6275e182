import Flowchart.Graph.Fault
import Flowchart.Instant.Text
import Flowchart.Json.Fault

/-!
# Faults of commands

The causes for which a command fails, with their wording: what the command could not do, and
possibly the reason on a line of its own.
-/

namespace Flowchart

/-- Why a file cannot be read or written. -/
inductive FileFault where
  | missing
  | denied
  | notDirectory
  | isDirectory
  /-- The bytes of the file are no text. -/
  | notText
  deriving DecidableEq, Inhabited, Repr

/-- The wording of the fault of a file. -/
def FileFault.message : FileFault → String
  | missing => "No such file or directory (os error 2)"
  | denied => "Permission denied (os error 13)"
  | notDirectory => "Not a directory (os error 20)"
  | isDirectory => "Is a directory (os error 21)"
  | notText => "stream did not contain valid UTF-8"

/-- Why a command fails. -/
inductive CommandFault where
  | unreadableWorkflow (file : String) (reason : FileFault)
  | noWorkflow (file : String) (reason : Json.Error)
  | unreadable (reason : FileFault)
  | unwritable (reason : FileFault)
  | invalidInput (reason : Json.Error)
  /-- The values of variables are a document, but no object. -/
  | inputNotObject
  | refused (reason : GraphFault)
  | noSchedule (reason : Json.Error)
  | noTime (text : String) (reason : Instant.ParseFault)
  | unknownTrigger (name : String)

namespace CommandFault

/-- What a command could not do. -/
def message : CommandFault → String
  | unreadableWorkflow file _ => s!"cannot read {file}"
  | noWorkflow file _ => s!"{file} is not a workflow document"
  | unreadable reason => reason.message
  | unwritable reason => reason.message
  | invalidInput reason => reason.message
  | inputNotObject => "Input must be a JSON object"
  | refused reason => reason.refusal
  | noSchedule reason => reason.message
  | noTime text _ => s!"'{text}' is not an RFC 3339 time"
  | unknownTrigger name => s!"Unknown trigger type: {name}"

/-- The reason behind a fault, if it is told apart. -/
def reason? : CommandFault → Option String
  | unreadableWorkflow _ reason => some reason.message
  | noWorkflow _ reason => some reason.message
  | refused reason => some reason.message
  | noTime _ reason => some reason.message
  | _ => none

/-- A text with all its lines indented. -/
def indented (text : String) : String :=
  String.ofList ([' ', ' ', ' ', ' '] ++ text.toList.flatMap fun c =>
    if c = '\n' then ['\n', ' ', ' ', ' ', ' '] else [c])

/-- What is shown of a fault. -/
def report (fault : CommandFault) : String :=
  let reason := match fault.reason? with
    | some reason => s!"\n\nCaused by:\n{indented reason}"
    | none => ""
  s!"Error: {fault.message}{reason}\n"

end CommandFault
end Flowchart
