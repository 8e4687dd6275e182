import Flowchart.Handler.Settings

/-!
# Wait

Pauses a run for a number of milliseconds, which never exceeds a limit. The number comes from a
variable if that holds one, else from the settings.
-/

namespace Flowchart.Blocks

open Json.Decoder

/-- The settings of a wait. -/
structure WaitSettings where
  delayMs : String := ""
  delayVariable : String := ""
  deriving DecidableEq, Inhabited

/-- The fields of the settings of a wait. -/
def WaitSettings.record : Record WaitSettings where
  title := "struct WaitConfig"
  start := {}
  fields := [
    Settings.text "delayms" fun v s => { s with delayMs := v },
    Settings.text "delayvariable" fun v s => { s with delayVariable := v }]

/-- The number that a variable holds, if its name is not blank. -/
def delayFromVariable (store : Store) (name : String) : Option Binary64 :=
  if Text.isBlankText name then none else (store.get? name).bind parseNumber

/-- The delay that settings ask for; a negative one counts as zero. -/
def requestedDelay (settings : WaitSettings) (store : Store) : Binary64 :=
  let delay :=
    match delayFromVariable store settings.delayVariable with
    | some n => n
    | none => (store.resolveNumber settings.delayMs).getD .zero
  if delay.negative then .zero else delay

/-- The delay in milliseconds, and whether it had to be cut to the limit. -/
def cutDelay (requested : Binary64) (limit : Nat) : Nat × Bool :=
  if (Binary64.ofNat limit).less requested then (limit, true) else (requested.toWord, false)

/-- Executes a wait. -/
def runWait (limit : Nat) (context : Context) (scene : Scene) : StepResult × Scene :=
  let (settings, scene) := Settings.read WaitSettings.record context scene
  let requested := requestedDelay settings scene.store
  let (delay, isCut) := cutDelay requested limit
  let asked := Decimal.Layout.plain.write requested
  let scene :=
    if isCut then scene.warn
      s!"Wait '{context.displayName}': {asked}ms exceeds the limit, clipped to {limit}ms"
    else scene
  let scene := scene.info s!"Waiting for {delay}ms"
  let (finished, clock) := scene.clock.wait delay
  let scene := { scene with clock }
  if finished then (.success s!"Waited {delay}ms", scene)
  else (.failure s!"Wait of {delay}ms cancelled", scene)

/-- The handler of waits up to a limit. -/
def wait (limit : Nat) : Handler :=
  .named "Wait" ⟨"Delay execution for specified milliseconds", "time"⟩ (runWait limit)

end Flowchart.Blocks
