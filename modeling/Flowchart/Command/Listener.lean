import Flowchart.Event.Bus

/-!
# Listening to a run

A listener prints a line for each event that it receives. It receives while the events are sent,
now and then, as it is given time to; what it has not received then it receives at the end. It stops
for good when it has fallen so far behind that events are lost.
-/

namespace Flowchart

/-- What is printed for an event. -/
def Event.line : Event → String
  | .runStarted _ _ _ => "▶️  Workflow started"
  | .blockStarted _ _ name type _ => s!"  ⚡ {name} ({type})"
  | .blockCompleted _ _ description isError durationMs _ =>
      let mark := if isError then "↪️ " else "✅"
      s!"  {mark} {description} [{durationMs}ms]"
  | .noted _ _ (.info message) _ => s!"     ℹ️  {message}"
  | .noted _ _ (.warning message) _ => s!"     ⚠️  {message}"
  | .runCompleted _ outcome steps durationMs _ =>
      s!"✨ Workflow {outcome.name} after {steps} steps in {durationMs}ms"

/-- A listener: its place on a bus, whether it still listens, and the lines printed so far. -/
structure Listener where
  receiver : Receiver
  listening : Bool
  lines : List String
  deriving DecidableEq, Inhabited

namespace Listener

/-- A listener that hears all that a bus sends from now on. -/
def start (bus : Bus) : Listener := ⟨bus.subscribe, true, []⟩

/-- Receives once, if the listener still listens. -/
def poll (listener : Listener) (bus : Bus) : Listener :=
  if !listener.listening then listener
  else match bus.receive listener.receiver with
    | (.empty, receiver) => { listener with receiver }
    | (.lagged _, receiver) => { listener with receiver, listening := false }
    | (.event e, receiver) => { listener with receiver, lines := listener.lines ++ [e.line] }

/-- Receives so many times, while nothing is sent. -/
def pollTimes (bus : Bus) : Nat → Listener → Listener
  | 0, listener => listener
  | n + 1, listener => pollTimes bus n (listener.poll bus)

/-- A bus and a listener while events are sent. Once `sent` have been sent, latest first, the
listener receives `receives sent` times. -/
def attend (receives : List Event → Nat) (bus : Bus) (listener : Listener) (sent : List Event) :
    List Event → Bus × Listener
  | [] => (bus, listener)
  | e :: rest =>
      let bus := bus.send e
      attend receives bus (pollTimes bus (receives (e :: sent)) listener) (e :: sent) rest

/-- A listener that receives while events are sent, and then until the bus has nothing more. -/
def follow (receives : List Event → Nat) (bus : Bus) (events : List Event) : Listener :=
  let (bus, listener) := attend receives bus (start bus) [] events
  pollTimes bus (bus.retained.length + 1) listener

end Listener
end Flowchart
