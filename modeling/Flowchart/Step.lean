import Flowchart.Workflow.Json

/-!
# Verdicts of blocks

What a handler answers for one visited block: whether it failed, what it did, and possibly the key
of the branch to follow. A failure is a signal that picks a connection and never ends a run.
-/

namespace Flowchart

/-- A handler's answer for one visited block. -/
structure StepResult where
  isError : Bool
  description : String
  branchKey : Option String
  deriving DecidableEq, Inhabited

/-- The branch that a verdict asks for. -/
inductive Branch where
  | ofKind (kind : ConnectionKind)
  | labeled (key : String)
  deriving DecidableEq

/-- A branch as a message shows it. -/
def Branch.text : Branch → String
  | .ofKind kind => kind.name
  | .labeled key => s!"'{key}'"

/-- What can go wrong inside a handler. -/
inductive HandlerFault where
  | configuration (reason : String)
  | execution (reason : String)
  | timeout (millis : Nat)
  | cancelled

/-- The wording of a handler's fault. -/
def HandlerFault.message : HandlerFault → String
  | .configuration reason => s!"Configuration error: {reason}"
  | .execution reason => s!"Execution failed: {reason}"
  | .timeout millis => s!"Timeout after {millis}ms"
  | .cancelled => "Cancelled"

namespace StepResult

/-- A verdict of success. -/
def success (description : String) : StepResult := ⟨false, description, none⟩

/-- A verdict of failure. -/
def failure (description : String) : StepResult := ⟨true, description, none⟩

/-- A verdict of success that names the branch to follow. -/
def branch (key description : String) : StepResult := ⟨false, description, some key⟩

/-- The verdict for a handler's fault, after what it was doing. -/
def ofFault (context : String) (fault : HandlerFault) : StepResult :=
  failure s!"{context}: {fault.message}"

/-- The branch that a verdict asks for: its key if it has one, else that of success or error. -/
def desiredBranch (r : StepResult) : Branch :=
  match r.branchKey with
  | some key => .labeled key
  | none => .ofKind (if r.isError then .error else .success)

open Json Json.Decoder in
/-- The fields of a verdict. -/
def record : Record StepResult where
  title := "struct StepResult"
  start := default
  fields := [
    required "is_error" Decoder.bool fun v r => { r with isError := v },
    required "description" Decoder.string fun v r => { r with description := v },
    nullable "branch_key" Decoder.string fun v r => { r with branchKey := v }]

/-- Verdicts in documents. -/
def decoder : Json.Decoder StepResult := record.decoder

/-- A verdict as a document. -/
def toJson (r : StepResult) : Json.Value := .object [
  ("is_error", .bool r.isError),
  ("description", .string r.description),
  ("branch_key", .ofOptionalText r.branchKey)]

end StepResult
end Flowchart
