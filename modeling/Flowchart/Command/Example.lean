import Flowchart.Json.Print
import Flowchart.Workflow.Json

/-!
# The example workflow

A workflow to start from: it adds two numbers and checks the total.
-/

namespace Flowchart.Workflow

/-- The settings of the block that adds. -/
def addSettings : Json.Value := .object [
  ("FirstVariable", .string "$A"), ("Operation", .string "Add"),
  ("ResultVariable", .string "$C"), ("SecondVariable", .string "$B")]

/-- The settings of the block that checks. -/
def checkSettings : Json.Value := .object [
  ("Comparison", .string "greater"), ("DataType", .string "Number"),
  ("First", .string "$C"), ("Second", .string "10")]

/-- A block of a standard type. -/
def standardBlock (id : Identifier) (name typeName : String) (settings : Option Json.Value) :
    Block where
  id := id
  name := name
  workflowId := .nil
  typeId := ((Catalog.standard.byName? typeName).map (·.id)).getD .nil
  config := settings.map (·.compact)

/-- The example; `fresh` gives identifiers by number. -/
def exampleOf (fresh : Nat → Identifier) : Workflow :=
  let (start, add, check, big, small) := (fresh 1, fresh 2, fresh 3, fresh 4, fresh 5)
  let w : Workflow := { Workflow.empty (fresh 0) "Example Calculation Workflow" with
    description := some "Adds two numbers and checks the total" }
  let w := w.addBlock (standardBlock start "Start" "Start" none)
  let w := w.addBlock (standardBlock add "Add" "Calculation" (some addSettings))
  let w := w.addBlock (standardBlock check "Over ten?" "If" (some checkSettings))
  let w := w.addBlock (standardBlock big "Big" "End" none)
  let w := w.addBlock (standardBlock small "Small" "End" none)
  let w := w.connect (fresh 6) start add .success
  let w := w.connect (fresh 7) add check .success
  let w := w.connect (fresh 8) check big .success
  let w := w.connect (fresh 9) check small .error
  let w := w.addVariable (fresh 10) "A" (some "2")
  let w := w.addVariable (fresh 11) "B" (some "3")
  w.addVariable (fresh 12) "C" (some "")

end Flowchart.Workflow
