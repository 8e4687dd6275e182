import Flowchart.Event.Basic

/-!
# The event bus

Events are broadcast to all receivers. The bus retains as many events as its capacity, which is
raised to a power of two. A receiver that has fallen behind is told how many events it missed and
then gets the retained ones.
-/

namespace Flowchart

/-- The broadcast of events: how many it retains, how many were sent, and the retained ones. -/
structure Bus where
  capacity : Nat
  sent : Nat
  retained : List Event
  deriving Inhabited

/-- A receiver: the number of events that had been sent when it will read next. -/
structure Receiver where
  next : Nat
  deriving DecidableEq, Inhabited

/-- What a receiver gets. -/
inductive Receipt where
  | empty
  | lagged (missed : Nat)
  | event (e : Event)

namespace Bus

/-- The least power of two that is at least `n`, searched upwards from `start`. -/
def powerFrom (n start : Nat) : Nat → Nat
  | 0 => start
  | fuel + 1 => if n ≤ start then start else powerFrom n (2 * start) fuel

/-- The bus that retains at least so many events; none for zero. A broadcast channel also refuses,
with a panic, a capacity of more than half the greatest 64-bit word: that is outside the model, in
which there is a bus for it. -/
def create? (capacity : Nat) : Option Bus :=
  if capacity = 0 then none else some ⟨powerFrom capacity 1 64, 0, []⟩

/-- Sends an event. -/
def send (bus : Bus) (e : Event) : Bus :=
  let all := bus.retained ++ [e]
  { bus with sent := bus.sent + 1, retained := all.drop (all.length - bus.capacity) }

/-- Sends a list of events in order. -/
def sendAll (bus : Bus) (events : List Event) : Bus :=
  let all := bus.retained ++ events
  { bus with
    sent := bus.sent + events.length
    retained := all.drop (all.length - bus.capacity) }

/-- A receiver of all events sent from now on. -/
def subscribe (bus : Bus) : Receiver := ⟨bus.sent⟩

/-- What a receiver gets next, and the receiver afterwards. -/
def receive (bus : Bus) (r : Receiver) : Receipt × Receiver :=
  let oldest := bus.sent - bus.retained.length
  if r.next < oldest then (.lagged (oldest - r.next), ⟨oldest⟩)
  else match bus.retained[r.next - oldest]? with
    | some e => (.event e, ⟨r.next + 1⟩)
    | none => (.empty, r)

/-- All that a receiver gets until the bus has nothing more for it. -/
def drain (bus : Bus) (r : Receiver) : List Receipt × Receiver :=
  go (bus.retained.length + 1) r
where
  /-- Receives at most so many times. -/
  go : Nat → Receiver → List Receipt × Receiver
    | 0, r => ([], r)
    | fuel + 1, r =>
        match bus.receive r with
        | (.empty, r) => ([], r)
        | (receipt, r) =>
            let (more, r) := go fuel r
            (receipt :: more, r)

end Bus
end Flowchart
