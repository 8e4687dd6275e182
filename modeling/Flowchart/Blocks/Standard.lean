import Flowchart.Blocks.Branching
import Flowchart.Blocks.Calculation
import Flowchart.Blocks.Condition
import Flowchart.Blocks.Extraction
import Flowchart.Blocks.Replacement
import Flowchart.Blocks.Request
import Flowchart.Blocks.TextTransform
import Flowchart.Blocks.Wait
import Flowchart.Handler.Basic
import Flowchart.Limits
import Flowchart.Registry

/-!
# The standard handlers

The handlers of the standard block types in the order of the catalog. The first and last block of a
run do nothing but say so, and a block whose type nothing else claims passes through and shows its
name.
-/

namespace Flowchart

namespace Blocks

/-- The entry of a workflow. -/
def start : Handler :=
  .named "Start" ⟨"Workflow entry point", "control"⟩ fun context scene =>
    (.success s!"Started: {context.displayName}", scene)

/-- The end of a workflow, after which a run stops. -/
def finish : Handler :=
  .named "End" ⟨"Workflow terminus", "control"⟩ fun context scene =>
    (.success s!"Finished: {context.displayName}", scene)

/-- The handler of last resort, which accepts every type. -/
def passthrough : Handler where
  typeName := "Default"
  accepts _ := true
  info := ⟨"Passes through blocks of unrecognized types", "control"⟩
  run context scene := (.success context.displayName, scene)

end Blocks

/-- The standard handlers under limits. -/
def Blocks.standard (limits : Limits) : List Handler := [
  start, finish, calculation, condition, switch, loop, wait limits.maxWaitMs, textTransform,
  textReplace limits, extraction, httpRequest limits]

/-- The registry of the standard handlers; blocks of all other types pass through. -/
def Registry.standard (limits : Limits) : Registry where
  handlers := Blocks.standard limits
  fallback := some Blocks.passthrough

end Flowchart
