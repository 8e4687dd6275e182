import Flowchart.Limits

/-!
# Commands

What can be asked for on the command line, with the values that hold for options that are left out.
-/

namespace Flowchart

/-- How a workflow is run. -/
structure RunOptions where
  /-- A Json object with values of variables. -/
  input : Option String := none
  verbose : Bool := false
  maxSteps : Nat := 1000
  maxWaitMs : Nat := 60000
  httpTimeoutMs : Nat := 30000
  timeoutMs : Option Nat := none
  deriving DecidableEq, Inhabited

/-- A schedule as options describe it. -/
structure ScheduleOptions where
  trigger : String := "interval"
  start : Option String := none
  intervalMinutes : Int := 60
  lastRun : Option String := none
  deriving DecidableEq, Inhabited

/-- What is asked for on the command line. -/
inductive Command where
  | run (file : String) (options : RunOptions)
  | validate (file : String)
  | listBlocks
  | createExample (output : String)
  /-- Tells when a schedule is due. A file takes the place of all options. -/
  | nextRun (file : Option String) (options : ScheduleOptions)
  deriving DecidableEq, Inhabited

namespace RunOptions

/-- The limits of the engine for a run. -/
def engineConfig (options : RunOptions) : EngineConfig :=
  { maxSteps := options.maxSteps, maxTimeMs := options.timeoutMs }

/-- The limits of the handlers for a run. -/
def limits (options : RunOptions) : Limits :=
  { maxWaitMs := options.maxWaitMs, httpTimeoutMs := options.httpTimeoutMs }

end RunOptions
end Flowchart
