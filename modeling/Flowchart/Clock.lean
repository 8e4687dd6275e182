/-!
# The clock of a run

Time passes only while a run waits. The clock counts milliseconds from the start of the run; it
also knows whether the run has been cancelled and when it will be. A wait ends when its time is
over or when the run is cancelled, whichever comes first.
-/

namespace Flowchart

/-- The time of a run in milliseconds, the time at which it will be cancelled, and whether it has
been. -/
structure Clock where
  now : Nat
  deadline : Option Nat
  cancelled : Bool
  deriving DecidableEq, Inhabited

namespace Clock

/-- The clock of a run that starts, with an optional limit of time. -/
def start (limit : Option Nat) (cancelled : Bool) : Clock := ⟨0, limit, cancelled⟩

/-- Waits so many milliseconds; tells whether the wait came to its end. -/
def wait (clock : Clock) (millis : Nat) : Bool × Clock :=
  if clock.cancelled then (false, clock)
  else match clock.deadline with
    | none => (true, { clock with now := clock.now + millis })
    | some deadline =>
        if deadline < clock.now + millis then
          (false, { clock with now := max clock.now deadline, cancelled := true })
        else (true, { clock with now := clock.now + millis })

end Clock
end Flowchart
