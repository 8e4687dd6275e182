import Flowchart.Record

/-!
# Events

What a run announces while it goes on: its start and end, the start and end of every step, and the
notes of the handlers. Each event carries the run it belongs to and the time.
-/

namespace Flowchart

/-- A note of a handler. -/
inductive Note where
  | info (message : String)
  | warning (message : String)
  deriving DecidableEq, Inhabited

/-- An event of a run. -/
inductive Event where
  | runStarted (run workflow : Identifier) (time : Instant)
  | runCompleted (run : Identifier) (outcome : Outcome) (steps durationMs : Nat) (time : Instant)
  | blockStarted (run block : Identifier) (name type : String) (time : Instant)
  | blockCompleted (run block : Identifier) (description : String) (isError : Bool)
      (durationMs : Nat) (time : Instant)
  | noted (run block : Identifier) (note : Note) (time : Instant)
  deriving DecidableEq, Inhabited

open Json Json.Decoder

/-- Notes in documents. -/
def Note.decoder : Decoder Note := Tagged.decoder {
  title := "internally tagged enum BlockEvent"
  tag := "event_type"
  variants := [
    ("Info", Tagged.variantOf (message "struct variant BlockEvent::Info") .info),
    ("Warning", Tagged.variantOf (message "struct variant BlockEvent::Warning") .warning)] }
where
  /-- The one field of a note. -/
  message (title : String) : Record String :=
    { title, start := "", fields := [required "message" Decoder.string fun v _ => v] }

/-- A note as a document. -/
def Note.toJson : Note → Value
  | .info message => .object [("event_type", .string "Info"), ("message", .string message)]
  | .warning message => .object [("event_type", .string "Warning"), ("message", .string message)]

namespace Event

/-- All that events may carry. -/
structure Fields where
  run : Identifier
  other : Identifier
  text : String
  type : String
  isError : Bool
  outcome : Outcome
  steps : Nat
  durationMs : Nat
  note : Note
  time : Instant
  deriving Inhabited

/-- The run of an event. -/
def runField : RecordField Fields :=
  required "execution_id" Identifier.decoder fun v f => { f with run := v }

/-- The block of an event. -/
def blockField : RecordField Fields :=
  required "block_id" Identifier.decoder fun v f => { f with other := v }

/-- The duration that an event reports. -/
def durationField : RecordField Fields :=
  required "duration_ms" (word "u64") fun v f => { f with durationMs := v }

/-- The time of an event. -/
def timeField : RecordField Fields :=
  required "timestamp" Instant.decoder fun v f => { f with time := v }

/-- A kind of event: its name, its fields and the event they make up. -/
def variantOf (name : String) (fields : List (RecordField Fields)) (wrap : Fields → Event) :
    String × (Value → Except Fault Event) :=
  (name, Tagged.variantOf
    { title := s!"struct variant ExecutionEvent::{name}", fields, start := default } wrap)

/-- Events in documents. -/
def decoder : Decoder Event := Tagged.decoder {
  title := "internally tagged enum ExecutionEvent"
  tag := "type"
  variants := [
    variantOf "WorkflowStarted"
      [runField, required "workflow_id" Identifier.decoder fun v f => { f with other := v },
        timeField]
      fun f => .runStarted f.run f.other f.time,
    variantOf "WorkflowCompleted"
      [runField, required "outcome" Outcome.decoder fun v f => { f with outcome := v },
        required "steps" (word "usize") fun v f => { f with steps := v }, durationField, timeField]
      fun f => .runCompleted f.run f.outcome f.steps f.durationMs f.time,
    variantOf "BlockStarted"
      [runField, blockField, required "block_name" Decoder.string fun v f => { f with text := v },
        required "block_type" Decoder.string fun v f => { f with type := v }, timeField]
      fun f => .blockStarted f.run f.other f.text f.type f.time,
    variantOf "BlockCompleted"
      [runField, blockField, required "description" Decoder.string fun v f => { f with text := v },
        required "is_error" Decoder.bool fun v f => { f with isError := v }, durationField,
        timeField]
      fun f => .blockCompleted f.run f.other f.text f.isError f.durationMs f.time,
    variantOf "BlockEvent"
      [runField, blockField, required "event" Note.decoder fun v f => { f with note := v },
        timeField]
      fun f => .noted f.run f.other f.note f.time] }

/-- An event as a document. -/
def toJson : Event → Value
  | .runStarted run workflow time => .object [
      ("type", .string "WorkflowStarted"), ("execution_id", run.toJson),
      ("workflow_id", workflow.toJson), ("timestamp", time.toJson)]
  | .runCompleted run outcome steps durationMs time => .object [
      ("type", .string "WorkflowCompleted"), ("execution_id", run.toJson),
      ("outcome", outcome.toJson), ("steps", .ofNat steps), ("duration_ms", .ofNat durationMs),
      ("timestamp", time.toJson)]
  | .blockStarted run block name type time => .object [
      ("type", .string "BlockStarted"), ("execution_id", run.toJson), ("block_id", block.toJson),
      ("block_name", .string name), ("block_type", .string type), ("timestamp", time.toJson)]
  | .blockCompleted run block description isError durationMs time => .object [
      ("type", .string "BlockCompleted"), ("execution_id", run.toJson), ("block_id", block.toJson),
      ("description", .string description), ("is_error", .bool isError),
      ("duration_ms", .ofNat durationMs), ("timestamp", time.toJson)]
  | .noted run block note time => .object [
      ("type", .string "BlockEvent"), ("execution_id", run.toJson), ("block_id", block.toJson),
      ("event", note.toJson), ("timestamp", time.toJson)]

end Event
end Flowchart
