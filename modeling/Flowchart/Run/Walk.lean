import Flowchart.Graph.Index
import Flowchart.Run.Trail

/-!
# Walks

A run walks a graph from its start, one block at a time. `Walk.visit` is one step: it announces the
block, lets its handler work on the scene, and records and announces the verdict. `Walk.advance`
decides what follows a visit, and `Walk.run` goes on until the run is cancelled, reaches an End
block, finds no connection to follow, or has used up its steps. Cancellation is looked at before
each step and comes before the limit of steps.
-/

namespace Flowchart

/-- What a run is called in its events, and when it started. -/
structure RunHeader where
  run : Identifier
  workflow : Identifier
  startedAt : Instant
  deriving DecidableEq, Inhabited

/-- The state of a run between two visits. -/
structure Walk where
  current : Identifier
  scene : Scene
  trail : Trail
  events : Array Event

/-- What follows a visit. -/
inductive Turn where
  | goOn (next : Identifier)
  | stop (outcome : Outcome)
  deriving DecidableEq

namespace Walk

/-- The time on the clock of a run. -/
def time (header : RunHeader) (clock : Clock) : Instant :=
  header.startedAt.addMillis clock.now

/-- Announces an event. -/
def announce (w : Walk) (e : Event) : Walk :=
  { w with events := w.events.push e }

/-- Announces the notes that a handler has made and clears them. All of them carry the time at which
the handler is done: when it made each of them, before or after a wait, is not kept. -/
def announceNotes (header : RunHeader) (block : Identifier) (w : Walk) : Walk :=
  let noted := w.scene.notes.map fun n =>
    Event.noted header.run block n (time header w.scene.clock)
  { w with
    events := w.events ++ noted
    scene := { w.scene with notes := [] } }

/-- Visits a block and gives its verdict. -/
def visit (header : RunHeader) (g : Graph) (b : ResolvedBlock) (w : Walk) : StepResult × Walk :=
  let id := b.block.id
  let startedAt := w.scene.clock.now
  let w := w.announce
    (.blockStarted header.run id b.block.name b.type.name (time header w.scene.clock))
  let (result, scene) := b.handler.run ⟨b.block, b.type, g.outgoing id⟩ w.scene
  let w := announceNotes header id { w with scene }
  let w := { w with trail := w.trail.step b.block.name result.description }
  (result, w.announce (.blockCompleted header.run id result.description result.isError
    (w.scene.clock.now - startedAt) (time header w.scene.clock)))

/-- What follows the visit of a block. -/
def advance (g : Graph) (b : ResolvedBlock) (result : StepResult) : Turn :=
  if b.isEnd then .stop .completed
  else match selectConnection result.desiredBranch (g.outgoing b.block.id) with
    | some c => .goOn c.target
    | none => .stop .deadEnd

/-- Walks on with so many steps left. -/
def run (header : RunHeader) (g : Graph) (maxSteps : Nat) :
    Nat → Walk → Except GraphFault (Outcome × Walk)
  | left, w =>
      if w.scene.clock.cancelled then
        .ok (.cancelled, { w with trail := w.trail.note "Execution cancelled" })
      else match left with
        | 0 => .ok (.completed, { w with trail := w.trail.truncate maxSteps })
        | left + 1 =>
            match g.block? w.current with
            | none => .error (.blockNotFound w.current)
            | some b =>
                let (result, w) := w.visit header g b
                match advance g b result with
                | .stop outcome => .ok (outcome, w)
                | .goOn next => run header g maxSteps left { w with current := next }

/-- The start of a walk. -/
def start (header : RunHeader) (g : Graph) (scene : Scene) : Walk where
  current := g.start
  scene := scene
  trail := .ofStore scene.store
  events := #[.runStarted header.run header.workflow (time header scene.clock)]

end Walk
end Flowchart
