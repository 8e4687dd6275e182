/-!
# Limits

What the standard handlers and the engine allow, with the values that hold if nothing else is said.
-/

namespace Flowchart

/-- The limits of the standard handlers. -/
structure Limits where
  /-- The longest wait. -/
  maxWaitMs : Nat := 60000
  /-- The time allowed to a request if its settings ask for no less. -/
  httpTimeoutMs : Nat := 30000
  /-- The greatest size of a compiled pattern, in bytes. -/
  patternSize : Nat := 1048576
  /-- The greatest length of a pattern, in bytes. -/
  patternLength : Nat := 1000
  deriving DecidableEq, Inhabited, Repr

/-- The limits of the engine. -/
structure EngineConfig where
  /-- The greatest number of visited blocks. -/
  maxSteps : Nat := 1000
  /-- The number of events retained for receivers; zero counts as one. -/
  eventBuffer : Nat := 1000
  /-- The time after which a run is cancelled. -/
  maxTimeMs : Option Nat := none
  deriving DecidableEq, Inhabited, Repr

end Flowchart
