import Flowchart.Event.Bus
import Flowchart.Limits
import Flowchart.Run.Walk
import Flowchart.Schedule

/-!
# The engine

An engine runs workflows with one registry, one catalog and one set of limits, and broadcasts the
events of all its runs on one bus. A workflow whose graph is faulty is refused before anything is
announced.
-/

namespace Flowchart

/-- What a run is given from outside: its name, its inputs, the time, the server at the other end
of connections, and whether it has been cancelled beforehand. -/
structure RunRequest where
  run : Identifier
  startedAt : Instant
  inputs : List (String × String)
  server : Http.Server
  cancelled : Bool
  deriving Inhabited

/-- What a run leaves behind: its record, its events, and the server afterwards. -/
structure RunResult where
  record : RunRecord
  events : List Event
  server : Http.Server

/-- What validation tells of a workflow. -/
structure ValidationReport where
  blocks : Nat
  connections : Nat
  endReachable : Bool
  deriving DecidableEq, Repr

/-- Handlers, block types, limits and the bus for events. -/
structure Engine where
  registry : Registry
  catalog : Catalog
  config : EngineConfig
  bus : Bus

namespace Engine

/-- An engine that has not run anything yet. -/
def create (registry : Registry) (catalog : Catalog) (config : EngineConfig) : Engine where
  registry := registry
  catalog := catalog
  config := config
  bus := (Bus.create? (max config.eventBuffer 1)).getD default

/-- The graph of a workflow under the types and handlers of an engine. -/
def graph (engine : Engine) (w : Workflow) : Except GraphFault Graph :=
  Graph.ofWorkflow engine.catalog engine.registry w

/-- The scene on which a run starts. -/
def openingScene (config : EngineConfig) (w : Workflow) (request : RunRequest) : Scene where
  store := Trail.seed w request.inputs
  counters := ⟨[]⟩
  clock := Clock.start config.maxTimeMs request.cancelled
  server := request.server
  notes := []

/-- Runs a graph of a workflow. -/
def runGraph (config : EngineConfig) (g : Graph) (w : Workflow) (request : RunRequest) :
    Except GraphFault RunResult := do
  let header : RunHeader := ⟨request.run, w.id, request.startedAt⟩
  let scene := openingScene config w request
  let (outcome, walk) ← Walk.run header g config.maxSteps config.maxSteps (.start header g scene)
  let record := walk.trail.finish header.run header.workflow
    header.startedAt walk.scene.store outcome
  let completed := Event.runCompleted header.run outcome record.steps walk.scene.clock.now
    (Walk.time header walk.scene.clock)
  return ⟨record, (walk.events.push completed).toList, walk.scene.server⟩

/-- Runs a workflow and broadcasts the events of the run. -/
def execute (engine : Engine) (w : Workflow) (request : RunRequest) :
    Except GraphFault RunResult × Engine :=
  match engine.graph w with
  | .error fault => (.error fault, engine)
  | .ok g =>
      match runGraph engine.config g w request with
      | .error fault => (.error fault, engine)
      | .ok result => (.ok result, { engine with bus := engine.bus.sendAll result.events })

/-- Runs a workflow without inputs if its schedule is due, and notes the attempt in the schedule. -/
def runIfDue (engine : Engine) (w : Workflow) (schedule : Schedule) (now : Instant)
    (request : RunRequest) : Option (Except GraphFault RunResult) × Schedule × Engine :=
  if schedule.isDue now then
    let (result, engine) := engine.execute w { request with inputs := [] }
    (some result, schedule.markRun now, engine)
  else (none, schedule, engine)

/-- Checks a workflow without running it. -/
def validate (engine : Engine) (w : Workflow) : Except GraphFault ValidationReport := do
  let g ← engine.graph w
  return ⟨g.size, w.connections.length, g.endReachable⟩

end Engine
end Flowchart
