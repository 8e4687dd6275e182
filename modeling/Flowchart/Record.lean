import Flowchart.Instant.Text
import Flowchart.Step

/-!
# Records of runs

What a run leaves behind: the variables it started and ended with, the blocks it visited, what they
did, and how it ended.
-/

namespace Flowchart

/-- How a run ended. -/
inductive Outcome where
  /-- At an End block or at the limit of steps. -/
  | completed
  /-- At a block without a connection for the branch asked for. -/
  | deadEnd
  /-- By cancellation. -/
  | cancelled
  deriving DecidableEq, Inhabited, Repr

/-- The name of an outcome. -/
def Outcome.name : Outcome → String
  | .completed => "Completed"
  | .deadEnd => "DeadEnd"
  | .cancelled => "Cancelled"

/-- Outcomes in documents. -/
def Outcome.decoder : Json.Decoder Outcome :=
  .enumeration [("Completed", .completed), ("DeadEnd", .deadEnd), ("Cancelled", .cancelled)]

/-- An outcome as a document. -/
def Outcome.toJson (o : Outcome) : Json.Value := .string o.name

/-- The record of one run. -/
structure RunRecord where
  id : Identifier
  workflowId : Identifier
  executedAt : Instant
  /-- The variables before the first step. -/
  inputData : Dictionary String
  /-- The variables after the last step. -/
  resultData : Dictionary String
  /-- The names of the visited blocks, in order. -/
  path : List String
  /-- What the blocks did, in order, with the notes of the engine. -/
  actions : List String
  outcome : Outcome
  /-- Whether the run was cut at the limit of steps. -/
  truncated : Bool
  steps : Nat
  deriving DecidableEq, Inhabited

/-- A dictionary of texts as a document. -/
def textsToJson (d : Dictionary String) : Json.Value :=
  .object (d.map fun (name, value) => (name, .string value))

namespace RunRecord

open Json Json.Decoder

/-- The fields of a record. -/
def record : Record RunRecord where
  title := "struct WorkflowExecution"
  start := default
  fields := [
    required "id" Identifier.decoder fun v r => { r with id := v },
    required "workflow_id" Identifier.decoder fun v r => { r with workflowId := v },
    required "executed_at" Instant.decoder fun v r => { r with executedAt := v },
    required "input_data" (dictionary Decoder.string) fun v r => { r with inputData := v },
    required "result_data" (dictionary Decoder.string) fun v r => { r with resultData := v },
    required "path" Decoder.string.list fun v r => { r with path := v },
    required "actions" Decoder.string.list fun v r => { r with actions := v },
    required "outcome" Outcome.decoder fun v r => { r with outcome := v },
    required "truncated" Decoder.bool fun v r => { r with truncated := v },
    required "steps" (word "usize") fun v r => { r with steps := v }]

/-- Records in documents. -/
def decoder : Decoder RunRecord := record.decoder

/-- A record as a document. -/
def toJson (r : RunRecord) : Value := .object [
  ("id", r.id.toJson),
  ("workflow_id", r.workflowId.toJson),
  ("executed_at", r.executedAt.toJson),
  ("input_data", textsToJson r.inputData),
  ("result_data", textsToJson r.resultData),
  ("path", .array (r.path.map .string)),
  ("actions", .array (r.actions.map .string)),
  ("outcome", r.outcome.toJson),
  ("truncated", .bool r.truncated),
  ("steps", .ofNat r.steps)]

end RunRecord
end Flowchart
