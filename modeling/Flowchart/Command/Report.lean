import Flowchart.Blocks.Standard
import Flowchart.Command.Basic
import Flowchart.Command.Example
import Flowchart.Command.Fault
import Flowchart.Command.Listener
import Flowchart.Engine
import Flowchart.Json.Document

/-!
# Reports of commands

What a command prints and whether it fails, given what it finds outside: the text of the file that
it reads, whether the file that it writes could be written, the time, and fresh identifiers. What
has been printed before a fault stays printed.
-/

namespace Flowchart

/-- What a command finds outside. -/
structure Surroundings where
  /-- The text of the file that the command reads. -/
  source : Except FileFault String
  /-- Whether the file that the command writes could be written. -/
  saved : Except FileFault Unit
  now : Instant
  /-- Identifiers that nothing else has, by number. -/
  fresh : Nat → Identifier
  /-- How often the listener of a run receives, given the events sent so far, latest first. -/
  receives : List Event → Nat

/-- What a command prints, and its fault if it fails. -/
structure Report where
  lines : List String
  fault : Option CommandFault

namespace Report

/-- The report of a step that may fail, after some lines. -/
def ofExcept {α : Type} (lines : List String) (result : Except CommandFault α)
    (next : α → Report) : Report :=
  match result with
  | .error fault => ⟨lines, some fault⟩
  | .ok a => ⟨lines ++ (next a).lines, (next a).fault⟩

/-- The report of a command that ends well. -/
def success (lines : List String) : Report := ⟨lines, none⟩

end Report

namespace Command

/-- The file that a command reads. -/
def source? : Command → Option String
  | run file _ => some file
  | validate file => some file
  | nextRun file _ => file
  | listBlocks | createExample _ => none

/-- The file that a command writes, with its text. -/
def product? (fresh : Nat → Identifier) : Command → Option (String × String)
  | createExample output => some (output, (Workflow.exampleOf fresh).toJson.pretty)
  | _ => none

/-- The workflow in the text of a file. -/
def readWorkflow (file : String) (source : Except FileFault String) :
    Except CommandFault Workflow := do
  let text ← source.mapError (.unreadableWorkflow file)
  (Workflow.decoder.ofText text).mapError (.noWorkflow file)

/-! ## Running -/

/-- The values of variables in a Json object. -/
def readInput : Option String → Except CommandFault (List (String × String))
  | none => .ok []
  | some text =>
      match Json.Value.ofText text with
      | .error e => .error (.invalidInput e)
      | .ok (.object members) => .ok (members.map fun (name, v) => (name, v.scalarText))
      | .ok _ => .error .inputNotObject

/-- What is printed of a workflow before its run. -/
def workflowLines (w : Workflow) : List String := [
  s!"📋 Workflow: {w.name}", s!"   Blocks: {w.blocks.length}",
  s!"   Connections: {w.connections.length}", ""]

/-- What is printed of a run that was announced on a bus, to a listener that receives now and
then. -/
def runLines (receives : List Event → Nat) (bus : Bus) (result : RunResult) : List String :=
  (Listener.follow receives bus result.events).lines ++
    ["", "📊 Execution record:", result.record.toJson.pretty]

/-- Runs a workflow. Nothing can be reached over a network. -/
def runReport (s : Surroundings) (file : String) (options : RunOptions) : Report :=
  let given := do
    let w ← readWorkflow file s.source
    return (w, ← readInput options.input)
  .ofExcept [s!"🚀 Loading workflow from: {file}"] given fun (w, inputs) =>
    let engine := Engine.create (.standard options.limits) .standard options.engineConfig
    let request : RunRequest := ⟨s.fresh 0, s.now, inputs, .unreachable, false⟩
    let result := (engine.execute w request).1.mapError .refused
    .ofExcept (workflowLines w) result fun result =>
      .success (runLines s.receives engine.bus result)

/-! ## The other commands -/

/-- What is printed of a valid workflow. -/
def validLines (w : Workflow) (report : ValidationReport) : List String :=
  let lines := ["✅ Workflow is valid:", s!"   Name: {w.name}", s!"   Blocks: {report.blocks}",
    s!"   Connections: {report.connections}"]
  if report.endReachable then lines
  else lines ++ ["   ⚠️  No End block is reachable from Start"]

/-- Checks a workflow. -/
def validateReport (s : Surroundings) (file : String) : Report :=
  let engine := Engine.create (.standard {}) .standard {}
  let checked := do
    let w ← readWorkflow file s.source
    return (w, ← (engine.validate w).mapError .refused)
  .ofExcept [s!"🔍 Validating workflow: {file}"] checked fun (w, report) =>
    .success (validLines w report)

/-- What is printed of the type of a handler. -/
def blockLines (registry : Registry) (typeName : String) : List String :=
  match registry.info? typeName with
  | some info => [s!"  • {typeName} ({info.category})", s!"    {info.description}"]
  | none => [s!"  • {typeName}"]

/-- Lists the types of blocks. -/
def blocksReport : Report :=
  let registry := Registry.standard {}
  .success (["📦 Available Block Types:", ""] ++ registry.typeNames.flatMap (blockLines registry))

/-- Tells of the example. -/
def exampleReport (s : Surroundings) (output : String) : Report :=
  .ofExcept [] (s.saved.mapError .unwritable) fun _ => .success [
    s!"✨ Created example workflow: {output}", "", "Run it with:",
    s!"  blockflow run --file {output} --input '\x7b\"A\": \"7\", \"B\": \"8\"\x7d'"]

/-- The instant that a text writes. -/
def readTime (text : String) : Except CommandFault Instant :=
  (Instant.parseStrict text).mapError (.noTime text)

/-- The trigger with a name in lower case. -/
def triggerOf (name : String) : Except CommandFault Trigger :=
  match [("interval", Trigger.interval), ("once", .once), ("daily", .daily)].lookup name with
  | some trigger => .ok trigger
  | none => .error (.unknownTrigger name)

/-- The schedule that options describe. Other triggers than intervals have no minutes. -/
def scheduleOf (now : Instant) (options : ScheduleOptions) : Except CommandFault Schedule := do
  let start ← match options.start with
    | some text => readTime text
    | none => pure now
  let trigger ← triggerOf (Text.asciiLower options.trigger)
  let lastRun ← options.lastRun.mapM readTime
  let minutes := if trigger = .interval then options.intervalMinutes else 0
  return { Schedule.create trigger start minutes with lastRunAt := lastRun }

/-- How a schedule repeats. -/
def repetition (s : Schedule) : String :=
  match s.trigger with
  | .interval => s!"every {s.intervalMinutes} minutes"
  | .once => "once"
  | .daily => "daily"

/-- Tells when a schedule is due. -/
def nextRunReport (s : Surroundings) (file : Option String) (options : ScheduleOptions) : Report :=
  let schedule := match file with
    | some _ => do
        let text ← s.source.mapError .unreadable
        (Schedule.decoder.ofText text).mapError .noSchedule
    | none => scheduleOf s.now options
  .ofExcept [] schedule fun schedule => .success [
    match schedule.nextRunAt with
    | some next => s!"⏰ Next run ({repetition schedule}): {next.offsetText}"
    | none => s!"⏹️  No further runs ({repetition schedule})"]

/-- The report of a command. -/
def report (s : Surroundings) : Command → Report
  | run file options => runReport s file options
  | validate file => validateReport s file
  | listBlocks => blocksReport
  | createExample output => exampleReport s output
  | nextRun file options => nextRunReport s file options

end Command
end Flowchart
