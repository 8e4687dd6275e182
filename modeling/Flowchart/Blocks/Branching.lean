import Flowchart.Handler.Settings

/-!
# Switch and Loop

Two blocks that name the branch to follow. A switch follows the connection labelled with the value
of an expression. A loop follows `loop` so many times and then `exit`; its counter belongs to the
run, and starts again after the exit.
-/

namespace Flowchart.Blocks

open Json.Decoder

/-- The label followed when no connection is labelled with the value. -/
def defaultCase : String := "default"

/-- The label followed while a loop goes on. -/
def loopBranch : String := "loop"

/-- The label followed when a loop is over. -/
def exitBranch : String := "exit"

/-- The settings of a switch. -/
structure SwitchSettings where
  expression : String := ""
  deriving DecidableEq, Inhabited

/-- The fields of the settings of a switch. -/
def SwitchSettings.record : Record SwitchSettings where
  title := "struct SwitchConfig"
  start := {}
  fields := [Settings.text "expression" (fun v s => { s with expression := v }) ["variable"]]

/-- Executes a switch. -/
def runSwitch (context : Context) (scene : Scene) : StepResult × Scene :=
  let (settings, scene) := Settings.read SwitchSettings.record context scene
  let value := scene.store.resolve settings.expression
  if !Text.isBlankText value && context.hasBranch value then
    (.branch value s!"Switch on '{settings.expression}': case '{value}'", scene)
  else
    (.branch defaultCase
      s!"Switch on '{settings.expression}': no case for '{value}', using default", scene)

/-- The handler of switches. -/
def switch : Handler :=
  .named "Switch" ⟨"Follow the connection labeled with the expression's value", "control"⟩
    runSwitch

/-- The settings of a loop. -/
structure LoopSettings where
  iterations : String := ""
  counterVariable : String := ""
  deriving DecidableEq, Inhabited

/-- The fields of the settings of a loop. -/
def LoopSettings.record : Record LoopSettings where
  title := "struct LoopConfig"
  start := {}
  fields := [
    Settings.text "iterations" (fun v s => { s with iterations := v }) ["count"],
    Settings.text "countervariable" fun v s => { s with counterVariable := v }]

/-- The number of rounds that a token asks for: the whole part of its number, or zero. -/
def requestedRounds (store : Store) (token : String) : Binary64 :=
  match store.resolveNumber token with
  | some n => n.floor
  | none => .zero

/-- Executes a loop. -/
def runLoop (context : Context) (scene : Scene) : StepResult × Scene :=
  let (settings, scene) := Settings.read LoopSettings.record context scene
  let rounds := requestedRounds scene.store settings.iterations
  let counter := (scene.counters.get? context.block.id).getD 0
  if (Binary64.ofNat counter.toNat).less rounds then
    let round := counter + 1
    let scene := { scene with counters := scene.counters.set context.block.id round }
    let scene := scene.setNamed settings.counterVariable (toString round.toNat)
    (.branch loopBranch
      s!"Loop iteration {round.toNat} of {Decimal.Layout.plain.write rounds}", scene)
  else
    (.branch exitBranch s!"Loop finished after {counter.toNat} iterations",
      { scene with counters := scene.counters.set context.block.id 0 })

/-- The handler of loops. -/
def loop : Handler :=
  .named "Loop" ⟨"Repeat the 'loop' connection, then follow 'exit'", "control"⟩ runLoop

end Flowchart.Blocks
