import Flowchart.Record
import Flowchart.Variables.Store

/-!
# Trails

The trail of a run collects what its record will hold: the variables it started from, the names of
the visited blocks, and what happened, in the order in which it happened. A recording is a trail
together with the variables as they stand, which entries are made in one after another.
-/

namespace Flowchart

/-- What has been recorded of a run so far. -/
structure Trail where
  inputData : Dictionary String
  path : Array String
  actions : Array String
  truncated : Bool
  deriving Inhabited

namespace Trail

/-- The variables of a run that starts: the defaults of a workflow, then the inputs. -/
def seed (w : Workflow) (inputs : List (String × String)) : Store :=
  let defaults := w.vars.map fun v => (v.name, v.initial.getD "")
  Store.ofList (defaults ++ inputs)

/-- The trail of a run that starts from a store. -/
def ofStore (store : Store) : Trail :=
  { inputData := store.snapshot, path := #[], actions := #[], truncated := false }

/-- Records a visited block and what it did. -/
def step (trail : Trail) (name description : String) : Trail :=
  { trail with path := trail.path.push name, actions := trail.actions.push description }

/-- Records a note of the engine. -/
def note (trail : Trail) (action : String) : Trail :=
  { trail with actions := trail.actions.push action }

/-- Records that a run was cut at the limit of steps. -/
def truncate (trail : Trail) (maxSteps : Nat) : Trail :=
  { trail.note s!"Execution truncated: step limit of {maxSteps} reached" with truncated := true }

/-- The number of visited blocks. -/
def steps (trail : Trail) : Nat := trail.path.size

/-- The record of a run that ended with a store. -/
def finish (trail : Trail) (run workflow : Identifier) (time : Instant) (store : Store)
    (outcome : Outcome) : RunRecord where
  id := run
  workflowId := workflow
  executedAt := time
  inputData := trail.inputData
  resultData := store.snapshot
  path := trail.path.toList
  actions := trail.actions.toList
  outcome := outcome
  truncated := trail.truncated
  steps := trail.steps

end Trail

/-- The trail of a run that goes on, and its variables. -/
structure Recording where
  trail : Trail
  store : Store
  deriving Inhabited

namespace Recording

/-- What is done to a recording between the start and the end of a run. -/
inductive Entry where
  /-- A visited block and what it did. -/
  | step (name description : String)
  /-- A note of the engine. -/
  | note (action : String)
  /-- The cut at a limit of steps. -/
  | truncate (maxSteps : Nat)
  /-- An assignment to a variable. -/
  | set (name value : String)
  deriving DecidableEq, Inhabited

/-- The recording of a run that starts. -/
def start (w : Workflow) (inputs : List (String × String)) : Recording :=
  let store := Trail.seed w inputs
  ⟨.ofStore store, store⟩

/-- Makes an entry. -/
def add (r : Recording) : Entry → Recording
  | .step name description => { r with trail := r.trail.step name description }
  | .note action => { r with trail := r.trail.note action }
  | .truncate maxSteps => { r with trail := r.trail.truncate maxSteps }
  | .set name value => { r with store := r.store.set name value }

/-- Makes entries in order. -/
def addAll (r : Recording) (entries : List Entry) : Recording := entries.foldl add r

/-- The record of a run that ended with a recording. -/
def finish (r : Recording) (run workflow : Identifier) (time : Instant) (outcome : Outcome) :
    RunRecord :=
  r.trail.finish run workflow time r.store outcome

end Recording
end Flowchart
